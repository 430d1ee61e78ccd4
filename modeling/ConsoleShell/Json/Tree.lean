import ConsoleShell.Json.Basic
import ConsoleShell.Json.Token

/-!
# Reading JSON text

A `Tree` is what the grammar alone sees in a text: members in the order written, repeated names included, strings
and numerals that may have no meaning, containers nested to any depth. `Tree.ofChars?` reads one, and
`Tree.value?` gives its value: of a repeated name the last member counts, every string needs a text, every numeral
a number, and no more than 127 containers may be open at once.

* `canonical_of_parse?`: the objects in a value that was read have their names in order.
-/

namespace ConsoleShell

open Decimal Text

namespace Json

inductive Tree
  | null
  | bool (b : Bool)
  | number (n : Option Number)
  | text (s : Option String)
  | array (items : List Tree)
  | object (members : List (Option String × Tree))

/-- A container that is still open: what it holds so far, the last first. An object also knows the name whose
value comes next. -/
inductive Open
  | array (items : List Tree)
  | object (members : List (Option String × Tree)) (key : Option String)

/-- What may come next, and the containers around it, the innermost first. -/
inductive Reading
  | value (around : List Open)
  | firstItem (around : List Open)
  | firstName (around : List Open)
  | name (members : List (Option String × Tree)) (around : List Open)
  | colon (members : List (Option String × Tree)) (key : Option String) (around : List Open)
  | after (v : Tree) (around : List Open)

/-- A value that one token spells. -/
def Token.scalar : Token → Option Tree
  | .null => some .null
  | .bool b => some (.bool b)
  | .number n => some (.number n)
  | .string s => some (.text s)
  | _ => none

/-- Takes a token where a value has to start. -/
def Reading.startValue (around : List Open) : Token → Option Reading
  | .openArray => some (.firstItem around)
  | .openObject => some (.firstName around)
  | t => t.scalar.map (.after · around)

def Reading.step : Reading → Token → Option Reading
  | .value around, t => startValue around t
  | .firstItem around, .closeArray => some (.after (.array []) around)
  | .firstItem around, t => startValue (.array [] :: around) t
  | .firstName around, .closeObject => some (.after (.object []) around)
  | .firstName around, .string s => some (.colon [] s around)
  | .name members around, .string s => some (.colon members s around)
  | .colon members key around, .colon => some (.value (.object members key :: around))
  | .after v (.array items :: around), .comma => some (.value (.array (v :: items) :: around))
  | .after v (.array items :: around), .closeArray => some (.after (.array (v :: items).reverse) around)
  | .after v (.object members key :: around), .comma => some (.name ((key, v) :: members) around)
  | .after v (.object members key :: around), .closeObject =>
    some (.after (.object ((key, v) :: members).reverse) around)
  | _, _ => none

/-- Takes all tokens; a single complete value has to be left. -/
def Reading.run : Reading → List Token → Option Tree
  | .after v [], [] => some v
  | _, [] => none
  | s, t :: ts =>
    match s.step t with
    | some s' => s'.run ts
    | none => none

/-- What the grammar sees in a text. -/
def Tree.ofChars? (cs : List Char) : Option Tree :=
  match Token.scan cs with
  | some ts => Reading.run (.value []) ts
  | none => none

/-- The number of containers that may be open at once. -/
def depthLimit : Nat := 127

mutual

/-- The value of a tree, at most `depth` containers deep. -/
def Tree.value? (depth : Nat) : Tree → Option Json
  | .null => some .null
  | .bool b => some (.bool b)
  | .number n => n.map .number
  | .text s => s.map .text
  | .array items =>
    match depth with
    | 0 => none
    | d + 1 => (Tree.items? d items).map .array
  | .object members =>
    match depth with
    | 0 => none
    | d + 1 => (Tree.members? d members).map fun m => .object (Keyed.ofPairs m)

def Tree.items? (depth : Nat) : List Tree → Option (List Json)
  | [] => some []
  | t :: r => (Tree.value? depth t).bind fun v => (Tree.items? depth r).map (v :: ·)

def Tree.members? (depth : Nat) : List (Option String × Tree) → Option (List (String × Json))
  | [] => some []
  | (k, t) :: r =>
    k.bind fun k => (Tree.value? depth t).bind fun v => (Tree.members? depth r).map ((k, v) :: ·)

end

def Tree.parse? (text : String) : Option Tree := Tree.ofChars? text.toList

def parse? (text : String) : Option Json := (Tree.parse? text).bind (Tree.value? depthLimit)

mutual

private theorem canonical_of_value? {depth : Nat} {t : Tree} {v : Json} (h : t.value? depth = some v) :
    v.Canonical := by
  cases t with
  | null | bool => cases h; trivial
  | number | text =>
    obtain ⟨x, -, rfl⟩ := Option.map_eq_some_iff.1 h
    trivial
  | array items =>
    cases depth with
    | zero => cases h
    | succ d =>
      obtain ⟨vs, hvs, rfl⟩ := Option.map_eq_some_iff.1 h
      exact canonical_of_items? hvs
  | object members =>
    cases depth with
    | zero => cases h
    | succ d =>
      obtain ⟨ms, hms, rfl⟩ := Option.map_eq_some_iff.1 h
      refine ⟨Keyed.ascending_ofPairs ms, canonicalMembers_iff.2 fun m hm => ?_⟩
      exact canonicalMembers_iff.1 (canonical_of_members? hms) m (Keyed.mem_of_mem_ofPairs hm)

private theorem canonical_of_items? {depth : Nat} {ts : List Tree} {vs : List Json}
    (h : Tree.items? depth ts = some vs) : CanonicalItems vs := by
  cases ts with
  | nil => cases h; trivial
  | cons t ts =>
    obtain ⟨v, hv, hrest⟩ := Option.bind_eq_some_iff.1 h
    obtain ⟨vs, hvs, rfl⟩ := Option.map_eq_some_iff.1 hrest
    exact ⟨canonical_of_value? hv, canonical_of_items? hvs⟩

private theorem canonical_of_members? {depth : Nat} {ts : List (Option String × Tree)} {ms : List (String × Json)}
    (h : Tree.members? depth ts = some ms) : CanonicalMembers ms := by
  cases ts with
  | nil => cases h; trivial
  | cons t ts =>
    obtain ⟨k, t⟩ := t
    obtain ⟨k, rfl, hmember⟩ := Option.bind_eq_some_iff.1 h
    obtain ⟨v, hv, hrest⟩ := Option.bind_eq_some_iff.1 hmember
    obtain ⟨ms, hms, rfl⟩ := Option.map_eq_some_iff.1 hrest
    exact ⟨canonical_of_value? hv, canonical_of_members? hms⟩

end

/-- The objects in a value that was read have their names in order. -/
theorem canonical_of_parse? {text : String} {v : Json} (h : parse? text = some v) : v.Canonical := by
  obtain ⟨t, -, ht⟩ := Option.bind_eq_some_iff.1 h
  exact canonical_of_value? ht

end Json

end ConsoleShell
