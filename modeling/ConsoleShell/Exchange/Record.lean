import ConsoleShell.Exchange.Request
import ConsoleShell.Json.Tree
import ConsoleShell.Session.Basic

/-!
# Records in JSON

A record is written as an object, or as an array of its fields in the order of their declaration. Members of other
names are passed over.

Straight from a text, what is passed over only has to be grammatical, and no field may come twice. From a value,
nothing of the kind can happen any more.

* `decodeToken?_eq_some_iff`: a text gives a token if it spells a `Tree.TextRecord` of it.
* `Profile.ofValue?_eq_some_iff`: a value gives a profile if the text of the email is its only `Field`.
-/

namespace ConsoleShell

open Text

namespace Json

namespace Tree

/-- The members that bear a name. -/
def named (name : String) (members : List (Option String × Tree)) : List Tree :=
  (members.filter fun m => m.1 == some name).map (·.2)

/-- The trees of the fields of a record, as far as they are there. None if this is no record with these fields. -/
def fields? (names : List String) : Tree → Option (List (Option Tree))
  | .array items => if items.length ≤ names.length then some (names.mapIdx fun i _ => items[i]?) else none
  | .object members =>
    if members.all (·.1.isSome) && names.all (fun name => (named name members).length ≤ 1) then
      some (names.map fun name => (named name members).head?)
    else none
  | _ => none

def text? : Tree → Option String
  | .text s => s
  | _ => none

/-- A record of one text. -/
def textRecord? (name : String) (t : Tree) : Option String :=
  match t.fields? [name] with
  | some [some field] => field.text?
  | _ => none

private theorem text?_eq_some_iff {t : Tree} {s : String} : t.text? = some s ↔ t = .text (some s) := by
  cases t <;> simp [text?]

/-- How a record of one text is spelt: as an array of nothing but the text, or as an object whose names all have a text,
with the name exactly once. -/
inductive TextRecord (name s : String) : Tree → Prop
  | array : TextRecord name s (.array [.text (some s)])
  | object {members : List (Option String × Tree)} (names : ∀ m ∈ members, m.1.isSome)
    (once : named name members = [.text (some s)]) : TextRecord name s (.object members)

private theorem textRecord?_object (name : String) (members : List (Option String × Tree)) :
    textRecord? name (.object members) =
      if (∀ m ∈ members, m.1.isSome) ∧ (named name members).length ≤ 1 then (named name members).head?.bind text?
      else none := by
  have hguard : (members.all (·.1.isSome) && [name].all fun name => (named name members).length ≤ 1) = true ↔
      (∀ m ∈ members, m.1.isSome) ∧ (named name members).length ≤ 1 := by
    simp
  simp only [textRecord?, fields?, hguard, List.map_cons, List.map_nil]
  by_cases hok : (∀ m ∈ members, m.1.isSome) ∧ (named name members).length ≤ 1
  · rw [if_pos hok, if_pos hok]
    cases (named name members).head? <;> rfl
  · rw [if_neg hok, if_neg hok]

private theorem textRecord?_eq_some_iff {name s : String} {t : Tree} :
    t.textRecord? name = some s ↔ TextRecord name s t := by
  constructor
  · intro h
    cases t with
    | array items =>
      match items with
      | [] => simp [textRecord?, fields?] at h
      | [item] =>
        obtain rfl := text?_eq_some_iff.1 h
        exact .array
      | _ :: _ :: _ => simp [textRecord?, fields?] at h
    | object members =>
      rw [textRecord?_object] at h
      split at h
      · rename_i hguard
        obtain ⟨field, hhead, hfield⟩ := Option.bind_eq_some_iff.1 h
        obtain ⟨rest, hnamed⟩ := List.head?_eq_some_iff.1 hhead
        have hrest : rest = [] := by simpa [hnamed] using hguard.2
        subst hrest
        rw [text?_eq_some_iff.1 hfield] at hnamed
        exact .object hguard.1 hnamed
      · cases h
    | null | bool | number | text => simp [textRecord?, fields?] at h
  · rintro (_ | ⟨hnames, honce⟩)
    · rfl
    · rw [textRecord?_object, honce, if_pos ⟨hnames, by simp⟩]
      rfl

end Tree

/-- The item of an array of one, or the member of an object that bears the name. -/
def onlyField? (name : String) : Json → Option (Option Json)
  | .array [v] => some (some v)
  | .object members => some (Keyed.find? name members)
  | _ => none

/-- A value that is a record of one field, with what is in the field. -/
inductive Field (name : String) : Json → Json → Prop
  | item (v : Json) : Field name (.array [v]) v
  | member {members : Members} {v : Json} (found : Keyed.find? name members = some v) : Field name (.object members) v

theorem onlyField?_eq_some_iff {name : String} {record v : Json} :
    record.onlyField? name = some (some v) ↔ Field name record v := by
  constructor
  · intro h
    unfold onlyField? at h
    split at h
    · obtain rfl := Option.some.inj (Option.some.inj h)
      exact .item _
    · exact .member (Option.some.inj h)
    · cases h
  · rintro (_ | hfound)
    · rfl
    · rw [onlyField?, hfound]

theorem onlyField?_eq_some_none_iff {name : String} {record : Json} :
    record.onlyField? name = some none ↔ ∃ members, record = .object members ∧ Keyed.find? name members = none := by
  constructor
  · intro h
    unfold onlyField? at h
    split at h
    · cases h
    · exact ⟨_, rfl, Option.some.inj h⟩
    · cases h
  · rintro ⟨members, rfl, hmissing⟩
    rw [onlyField?, hmissing]

def text? : Json → Option String
  | .text s => some s
  | _ => none

private theorem text?_eq_some_iff {v : Json} {s : String} : v.text? = some s ↔ v = .text s := by
  cases v <;> simp [text?]

/-- An integer of 64 bits with its sign. -/
def integer? : Json → Option Int
  | .number (.int n) => if Int64.minValue.toInt ≤ n ∧ n ≤ Int64.maxValue.toInt then some n else none
  | _ => none

def texts? : Json → Option (List String)
  | .array items => items.mapM text?
  | _ => none

def members? : Json → Option Members
  | .object members => some members
  | _ => none

end Json

open Json Text

/-- The token in the text of a successful login. -/
def decodeToken? (text : String) : Option String := (Tree.parse? text).bind (·.textRecord? "token")

theorem decodeToken?_eq_some_iff {text token : String} :
    decodeToken? text = some token ↔ ∃ t, Tree.parse? text = some t ∧ Tree.TextRecord "token" token t := by
  simp only [decodeToken?, Option.bind_eq_some_iff, Tree.textRecord?_eq_some_iff]

def decodeProfile? (text : String) : Option Profile :=
  ((Tree.parse? text).bind (·.textRecord? "email")).map Profile.mk

/-- What the text of a rejected login says; nothing if it is no record, or says nothing. -/
def rejectionText (text : String) : String :=
  match (Tree.parse? text).bind (·.fields? ["error"]) with
  | some [some field] => field.text?.getD ""
  | _ => ""

/-- The variables of a request, inside the container of the request itself. -/
def decodeVariables? : Option Tree → Option Members
  | none => some []
  | some t => (t.value? (depthLimit - 1)).bind members?

def decodeRequest? (text : String) : Option Request :=
  match (Tree.parse? text).bind (·.fields? ["query", "variables"]) with
  | some [some query, vars] =>
    match query.text?, decodeVariables? vars with
    | some q, some v => some { query := q, vars := v }
    | _, _ => none
  | _ => none

def Profile.ofValue? (v : Json) : Option Profile :=
  match v.onlyField? "email" with
  | some (some field) => field.text?.map Profile.mk
  | _ => none

theorem Profile.ofValue?_eq_some_iff {v : Json} {p : Profile} :
    Profile.ofValue? v = some p ↔ Json.Field "email" v (.text p.email) := by
  rw [← onlyField?_eq_some_iff, ofValue?]
  split
  · rename_i field hfield
    rw [hfield, Option.some.injEq, Option.some.injEq, ← text?_eq_some_iff]
    cases p
    cases field.text? <;> simp
  · rename_i hno
    simp only [reduceCtorEq, false_iff]
    exact hno _

def Profile.toJson (p : Profile) : Json := .object [("email", .text p.email)]

end ConsoleShell
