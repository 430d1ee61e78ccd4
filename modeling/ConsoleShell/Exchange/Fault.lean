/-!
# Faults with a place

What goes wrong with a text is reported in words, which may close with the place: ` at line 3 column 14`. Lines count
from one, and line 0 stands for no place at all.
-/

namespace ConsoleShell

structure Fault where
  what : String
  line : Nat
  column : Nat
  deriving DecidableEq

namespace Fault

/-- The number that decimal digits write, if there are any and it fits 64 bits. -/
def number? (digits : List Char) : Option Nat :=
  let n := digits.foldl (fun n c => 10 * n + (c.toNat - '0'.toNat)) 0
  if digits ≠ [] ∧ n < UInt64.size then some n else none

/-- Line and column, if the text is nothing but a place. -/
def place? (s : List Char) : Option (Nat × Nat) := do
  let s ← List.isPrefixOf? " at line ".toList s
  let line ← number? (s.takeWhile Char.isDigit)
  let s ← List.isPrefixOf? " column ".toList (s.dropWhile Char.isDigit)
  let column ← number? (s.takeWhile Char.isDigit)
  if s.all Char.isDigit then some (line, column) else none

/-- Reads the words up to a place at the end. -/
def ofChars : List Char → List Char × Nat × Nat
  | [] => ([], 0, 0)
  | c :: r =>
    match place? (c :: r) with
    | some place => ([], place)
    | none =>
      let (what, place) := ofChars r
      (c :: what, place)

/-- The fault that a report tells of. -/
def ofReport (report : String) : Fault :=
  let (what, line, column) := ofChars report.toList
  ⟨String.ofList what, line, column⟩

/-- Says what is wrong, and where if a place is known. -/
def message (f : Fault) : String :=
  if f.line = 0 then f.what
  else f.what ++ " at line " ++ toString f.line ++ " column " ++ toString f.column

end Fault

end ConsoleShell
