import ConsoleShell.Json.Printer

/-!
# Errors reported by the backend

An entry of the `errors` list of a response becomes a message together with all other members, as they came. The
message is empty when the backend sent none.

* `ofValue` takes any value: a message that is no text is written as JSON, and so is an entry that is neither an
  object nor a text;
* `decode?` only takes objects, member by member, and gives up at a message that is no text or comes twice;
* `toJson` writes the message and then all other members into one object.
-/

namespace ConsoleShell

open Text

structure BackendError where
  message : String := ""
  /-- All members but the message. -/
  extra : Json.Members := []

namespace BackendError

def messageKey : String := "message"

/-- The error that a reported value stands for. -/
def ofValue : Json → BackendError
  | .object members =>
    let message := match Keyed.find? messageKey members with
      | none => ""
      | some (.text s) => s
      | some v => v.print
    { message := message, extra := Keyed.erase messageKey members }
  | .text s => { message := s }
  | v => { message := v.print }

/-- Takes the members one by one. What was read before them are the message, if there was one, and the others. -/
def takeMembers (message : Option String) (others : List (String × Json)) :
    List (String × Json) → Option BackendError
  | [] => some { message := message.getD "", extra := Keyed.ofPairs others }
  | (k, v) :: rest =>
    if k = messageKey then
      match message, v with
      | none, .text s => takeMembers (some s) others rest
      | _, _ => none
    else takeMembers message (others ++ [(k, v)]) rest

/-- Reads an error from an object whose message is a text or missing. -/
def decode? : Json → Option BackendError
  | .object members => takeMembers none [] members
  | _ => none

def toJson (e : BackendError) : Json := .object (Keyed.ofPairs ((messageKey, .text e.message) :: e.extra))

/-- The message, or the other members where there is none. -/
def display (e : BackendError) : String :=
  if e.message = "" then (Json.object e.extra).print else e.message

end BackendError

end ConsoleShell
