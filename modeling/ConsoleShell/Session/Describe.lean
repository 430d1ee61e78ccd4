import ConsoleShell.Session.Store
import ConsoleShell.Text.Graphic

/-!
# A store in words

`Store.describe` sums up a store without giving away its token. Texts in it stand in quotes, with a backslash
before a quote and a backslash, and with escapes for all that would not show: what is not graphic, what is ignorable,
and what would be drawn together with the character before it.
-/

namespace ConsoleShell

open Text

/-- How a character stands in a quoted text. -/
def describeChar (c : Char) : List Char :=
  let n := c.toNat
  if c = '"' ∨ c = '\\' then ['\\', c]
  else if n = 0x00 then ['\\', '0']
  else if n = 0x09 then ['\\', 't']
  else if n = 0x0A then ['\\', 'n']
  else if n = 0x0D then ['\\', 'r']
  else if isGraphic c && !isIgnorable c && !isExtending c then [c]
  else ['\\', 'u', '\x7b'] ++ Nat.toDigits 16 n ++ ['\x7d']

def describeText (s : String) : String := "\"" ++ String.ofList (s.toList.flatMap describeChar) ++ "\""

def describeBool (b : Bool) : String := if b then "true" else "false"

def Profile.describe (p : Profile) : String := "Profile \x7b email: " ++ describeText p.email ++ " \x7d"

def Store.describe (s : Store) : String :=
  let profile := match s.session.profile with
    | none => "None"
    | some p => "Some(" ++ p.describe ++ ")"
  "SessionStore \x7b has_token: " ++ describeBool s.session.token.isSome ++
    ", logins_in_flight: " ++ toString s.session.attempts.toNat ++
    ", profile: " ++ profile ++
    ", observers: " ++ toString s.registry.size ++ " \x7d"

end ConsoleShell
