import ConsoleShell.Exchange.Failure
import ConsoleShell.Exchange.Record

/-!
# What a reply means

`interpret` tells the data of a response to a query from its failures: the status first, then the shape of the
body, then the reported errors, then the data. `profileOfData` reads the profile out of the data, `tokenOf` the
token out of the reply to a login.

* `profileOfData_eq_ok_iff`, `profileOfData_eq_noProfile_iff`: which data have a profile, and which say that there is
  none. By `cases_of_profileOfData`, any others are malformed.
-/

namespace ConsoleShell

open Json Text

/-- A response, or the reason why there is none. -/
inductive Reply
  | response (r : Response)
  | failed (cause : TransportError)
  deriving DecidableEq

/-- The only status that counts as success. -/
def okStatus : UInt16 := 200

/-- The errors in an object: none for null and the empty array, one for anything that is not an array. -/
def reportedErrors (members : Members) : List BackendError :=
  match Keyed.find? "errors" members with
  | none | some .null => []
  | some (.array items) => items.map BackendError.ofValue
  | some v => [BackendError.ofValue v]

/-- The data of a response to a query. -/
def interpret (r : Response) : Except QueryError Json :=
  if r.status ≠ okStatus then .error (.status r)
  else match parse? r.body with
    | none => .error (.decode .malformed)
    | some (.object members) =>
      match reportedErrors members with
      | [] =>
        match Keyed.find? "data" members with
        | some v => .ok v
        | none => .error (.decode .noData)
      | e :: es => .error (.backend (e :: es))
    | some _ => .error (.decode .notAnObject)

def profileOfData (data : Json) : Except QueryError Profile :=
  match data.onlyField? "userProfile" with
  | none => .error (.decode .malformed)
  | some none | some (some .null) => .error (.decode .noProfile)
  | some (some v) =>
    match Profile.ofValue? v with
    | some p => .ok p
    | none => .error (.decode .malformed)

/-- All that data can come to, with what makes them come to that. -/
theorem cases_of_profileOfData (data : Json) :
    (∃ v p, data.onlyField? "userProfile" = some (some v) ∧ Profile.ofValue? v = some p ∧
      profileOfData data = .ok p) ∨
    ((data.onlyField? "userProfile" = some (some .null) ∨ data.onlyField? "userProfile" = some none) ∧
      profileOfData data = .error (.decode .noProfile)) ∨
    ((data.onlyField? "userProfile" = none ∨
        ∃ v, data.onlyField? "userProfile" = some (some v) ∧ v ≠ .null ∧ Profile.ofValue? v = none) ∧
      profileOfData data = .error (.decode .malformed)) := by
  unfold profileOfData
  split
  · rename_i hdata
    exact .inr (.inr ⟨.inl hdata, rfl⟩)
  · rename_i hdata
    exact .inr (.inl ⟨.inr hdata, rfl⟩)
  · rename_i hdata
    exact .inr (.inl ⟨.inl hdata, rfl⟩)
  · rename_i v hnull hdata
    cases hp : Profile.ofValue? v with
    | none => exact .inr (.inr ⟨.inr ⟨v, hdata, hnull, hp⟩, rfl⟩)
    | some p => exact .inl ⟨v, p, hdata, hp, rfl⟩

theorem profileOfData_eq_ok_iff {data : Json} {p : Profile} :
    profileOfData data = .ok p ↔ ∃ v, Field "userProfile" data v ∧ Field "email" v (.text p.email) := by
  simp only [← @onlyField?_eq_some_iff _ data, ← Profile.ofValue?_eq_some_iff]
  have hnone : Profile.ofValue? .null = none := rfl
  rcases cases_of_profileOfData data with ⟨v, q, hdata, hq, h⟩ | ⟨hdata | hdata, h⟩ | ⟨hdata | ⟨v, hdata, -, hv⟩, h⟩
  · simp [h, hdata, hq]
  · simp [h, hdata, hnone]
  · simp [h, hdata]
  · simp [h, hdata]
  · simp [h, hdata, hv]

theorem profileOfData_eq_noProfile_iff {data : Json} : profileOfData data = .error (.decode .noProfile) ↔
    Field "userProfile" data .null ∨ ∃ members, data = .object members ∧ Keyed.find? "userProfile" members = none := by
  rw [← onlyField?_eq_some_iff, ← onlyField?_eq_some_none_iff]
  rcases cases_of_profileOfData data with ⟨v, p, hdata, hp, h⟩ | ⟨hdata, h⟩ | ⟨hdata | ⟨v, hdata, hnull, -⟩, h⟩
  · have hnull : v ≠ .null := by
      rintro rfl
      cases hp
    simp [h, hdata, hnull]
  · simp [h, hdata]
  · simp [h, hdata]
  · simp [h, hdata, hnull]

def dataOf : Reply → Except QueryError Json
  | .response r => interpret r
  | .failed cause => .error (.transport cause)

def profileOf (reply : Reply) : Except QueryError Profile :=
  match dataOf reply with
  | .ok data => profileOfData data
  | .error e => .error e

def tokenOf : Reply → Except LoginError String
  | .failed cause => .error (.transport cause)
  | .response r =>
    if r.status ≠ okStatus then .error (.rejected r.status (rejectionText r.body))
    else match decodeToken? r.body with
      | some token => .ok token
      | none => .error (.decode .malformed)

inductive Shape
  | value
  | profile
  | int
  | strings
  | map
  deriving DecidableEq

inductive Decoded
  | value (v : Json)
  | profile (p : Profile)
  | int (n : Int)
  | strings (ss : List String)
  | map (members : Members)

def Shape.decode? : Shape → Json → Option Decoded
  | .value, v => some (.value v)
  | .profile, v => (Profile.ofValue? v).map .profile
  | .int, v => v.integer?.map .int
  | .strings, v => v.texts?.map .strings
  | .map, v => v.members?.map .map

def decodedOf (shape : Shape) (reply : Reply) : Except QueryError Decoded :=
  match dataOf reply with
  | .error e => .error e
  | .ok data =>
    match shape.decode? data with
    | some d => .ok d
    | none => .error (.decode .malformed)

end ConsoleShell
