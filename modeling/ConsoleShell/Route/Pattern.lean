import ConsoleShell.Text.Keyed
import ConsoleShell.Text.Split

/-!
# Route patterns

A pattern is written `*`, `/fixed/path` or `/path/:name/…`. `Pattern.parse` reads one, `Pattern.text` writes it
back, `Pattern.capture?` matches a path and gives the captured parameters, and `Pattern.fill?` puts parameters in
place of the names.
-/

namespace ConsoleShell

open Text

/-- Captured parameters by name. -/
abbrev Params := Keyed String

def pathPieces (path : String) : List String := (splitAt '/' path.toList).map String.ofList

/-- The path with the given pieces between its slashes. -/
def joinPath (pieces : List String) : String := String.ofList (joinWith '/' (pieces.map String.toList))

theorem joinPath_pathPieces (path : String) : joinPath (pathPieces path) = path := by
  simp [joinPath, pathPieces, Function.comp_def, joinWith_splitAt]

inductive Segment
  | literal (text : String)
  | param (name : String)
  deriving DecidableEq

inductive Pattern
  | fixed (path : String)
  /-- Matches paths with as many pieces; a parameter captures any piece but the empty one. -/
  | segments (parts : List Segment)
  | catchAll
  deriving DecidableEq

inductive PatternError
  | empty
  | missingLeadingSlash
  | unnamedParam
  | duplicateParam (name : String)
  deriving DecidableEq

def PatternError.message : PatternError → String
  | .empty => "pattern is empty"
  | .missingLeadingSlash => "pattern must start with `/` or be `*`"
  | .unnamedParam => "parameter segment has no name"
  | .duplicateParam name => "parameter `" ++ name ++ "` appears more than once"

/-- The name of a piece that is a parameter. -/
def paramName? (piece : String) : Option String :=
  match piece.toList with
  | ':' :: name => some (String.ofList name)
  | _ => none

/-- Reads the pieces in order; `seen` holds the parameter names before them. -/
def parseSegments (seen : List String) : List String → Except PatternError (List Segment)
  | [] => .ok []
  | piece :: rest =>
    match paramName? piece with
    | none => (parseSegments seen rest).map (.literal piece :: ·)
    | some name =>
      if name = "" then .error .unnamedParam
      else if name ∈ seen then .error (.duplicateParam name)
      else (parseSegments (name :: seen) rest).map (.param name :: ·)

namespace Segment

def text : Segment → String
  | .literal s => s
  | .param name => ":" ++ name

def name? : Segment → Option String
  | .literal _ => none
  | .param name => some name

/-- The piece of a path that stands for the segment under the given parameters. -/
def fill? (params : Params) : Segment → Option String
  | .literal s => some s
  | .param name => params.find? name

end Segment

/-- Matches segments and pieces one by one and adds what the parameters capture. -/
def captureInto (params : Params) : List Segment → List String → Option Params
  | [], [] => some params
  | .literal s :: parts, piece :: pieces => if s = piece then captureInto params parts pieces else none
  | .param name :: parts, piece :: pieces =>
    if piece = "" then none else captureInto (params.insert name piece) parts pieces
  | _, _ => none

namespace Pattern

def parse (raw : String) : Except PatternError Pattern :=
  if raw = "" then .error .empty
  else if raw = "*" then .ok .catchAll
  else if raw.toList.head? ≠ some '/' then .error .missingLeadingSlash
  else if (pathPieces raw).all fun piece => (paramName? piece).isNone then .ok (.fixed raw)
  else (parseSegments [] (pathPieces raw)).map .segments

def isCatchAll : Pattern → Bool
  | .catchAll => true
  | _ => false

/-- The text that the pattern was read from. -/
def text : Pattern → String
  | .fixed path => path
  | .segments parts => joinPath (parts.map Segment.text)
  | .catchAll => "*"

def names : Pattern → List String
  | .segments parts => parts.filterMap Segment.name?
  | _ => []

/-- The parameters that a path gives, if it matches. -/
def capture? : Pattern → String → Option Params
  | .catchAll, _ => some []
  | .fixed path, p => if path = p then some [] else none
  | .segments parts, p => captureInto [] parts (pathPieces p)

/-- The path that has the given parameters in place of the names. -/
def fill? (params : Params) : Pattern → Option String
  | .catchAll => none
  | .fixed path => some path
  | .segments parts => (parts.mapM (Segment.fill? params)).map joinPath

end Pattern

end ConsoleShell
