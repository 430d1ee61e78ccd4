import ConsoleShell.Decimal.Numeral
import ConsoleShell.Text.Keyed

/-!
# JSON values

A value keeps the difference between integers and doubles; the members of an object are kept in ascending order
of their names. `Json.Canonical` says so for every object inside a value.
-/

namespace ConsoleShell

open Decimal Text

inductive Json
  | null
  | bool (b : Bool)
  | number (n : Number)
  | text (s : String)
  | array (items : List Json)
  | object (members : List (String × Json))

namespace Json

abbrev Members := Keyed Json

mutual

/-- Every object inside the value names its members in strictly ascending order. -/
def Canonical : Json → Prop
  | .array items => CanonicalItems items
  | .object members => Keyed.Ascending members ∧ CanonicalMembers members
  | _ => True

def CanonicalItems : List Json → Prop
  | [] => True
  | v :: r => Canonical v ∧ CanonicalItems r

def CanonicalMembers : List (String × Json) → Prop
  | [] => True
  | (_, v) :: r => Canonical v ∧ CanonicalMembers r

end

theorem canonicalMembers_iff {members : List (String × Json)} :
    CanonicalMembers members ↔ ∀ m ∈ members, Canonical m.2 := by
  induction members with
  | nil => simp [CanonicalMembers]
  | cons m r ih => obtain ⟨k, v⟩ := m; simp [CanonicalMembers, ih]

end Json

end ConsoleShell
