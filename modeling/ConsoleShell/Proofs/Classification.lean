import ConsoleShell.Exchange.Reply
import Mathlib

/-!
# What a response comes to

A response to a query is its data or one of three failures, and which of them depends on little: on the status, on
whether the body is an object, and on its members `errors` and `data`. What is written in an object is a list of members
in which names may be repeated; of a repeated name the last member counts.

* `parse?_eq_object_iff`, `find?_ofPairs`: the members of a parsed object are the last ones of each name.
* `cases_of_interpret`: all that a response can come to.
* `response_classified`: exactly when it comes to what, and that no other member matters.
-/

namespace ConsoleShell

open Json Text

/-- The value of the last member of a name. -/
def lastNamed {α : Type} (name : String) (written : List (String × α)) : Option α :=
  (written.filter fun m => m.1 = name).getLast?.map (·.2)

private theorem lastNamed_concat {α : Type} (name : String) (written : List (String × α)) (m : String × α) :
    lastNamed name (written ++ [m]) = if m.1 = name then some m.2 else lastNamed name written := by
  rw [lastNamed, List.filter_append]
  by_cases h : m.1 = name
  · simp [h]
  · simp [h, lastNamed]

/-- Of a repeated key, the last value is kept. -/
theorem find?_ofPairs {α : Type} (key : String) (pairs : List (String × α)) :
    Keyed.find? key (Keyed.ofPairs pairs) = lastNamed key pairs := by
  induction pairs using List.reverseRecOn with
  | nil => rfl
  | append_singleton pairs p ih =>
    have hinsert : Keyed.ofPairs (pairs ++ [p]) = (Keyed.ofPairs pairs).insert p.1 p.2 := by
      rw [Keyed.ofPairs, List.foldl_append]
      rfl
    rw [hinsert, Keyed.find?_insert, lastNamed_concat, ih]

namespace Json

/-- The members of the object that a text spells, in the order written. -/
def writtenMembers? (text : String) : Option (List (String × Json)) :=
  match Tree.parse? text with
  | some (.object members) => Tree.members? (depthLimit - 1) members
  | _ => none

theorem parse?_eq_object_iff {text : String} {members : Members} :
    parse? text = some (.object members) ↔
      ∃ written, writtenMembers? text = some written ∧ members = Keyed.ofPairs written := by
  rw [parse?, writtenMembers?]
  cases Tree.parse? text with
  | none => simp
  | some t =>
    cases t with
    | object ms =>
      have hvalue : Tree.value? depthLimit (.object ms) =
          (Tree.members? (depthLimit - 1) ms).map fun m => .object (Keyed.ofPairs m) := rfl
      rw [Option.bind_some, hvalue, Option.map_eq_some_iff]
      refine exists_congr fun written => and_congr_right fun _ => ?_
      rw [Json.object.injEq]
      exact eq_comm
    | array items =>
      have hvalue : Tree.value? depthLimit (.array items) = (Tree.items? (depthLimit - 1) items).map .array := rfl
      simp [hvalue]
    | null => simp [Tree.value?]
    | bool b => simp [Tree.value?]
    | number n => simp [Tree.value?]
    | text s => simp [Tree.value?]

/-- The elements of an array; any other value stands for itself. -/
def entries : Json → List Json
  | .array items => items
  | v => [v]

end Json

/-- The member `errors` reports none: it is absent, null, or an empty array. -/
def ReportsNone (errors : Option Json) : Prop := errors = none ∨ errors = some .null ∨ errors = some (.array [])

private theorem reportedErrors_eq (members : Members) :
    (ReportsNone (Keyed.find? "errors" members) ∧ reportedErrors members = []) ∨
    ∃ v, Keyed.find? "errors" members = some v ∧ ¬ ReportsNone (some v) ∧
      reportedErrors members = v.entries.map BackendError.ofValue ∧ reportedErrors members ≠ [] := by
  rw [reportedErrors]
  cases h : Keyed.find? "errors" members with
  | none => exact .inl ⟨.inl rfl, rfl⟩
  | some v =>
    cases v with
    | null => exact .inl ⟨.inr (.inl rfl), rfl⟩
    | array items =>
      cases items with
      | nil => exact .inl ⟨.inr (.inr rfl), rfl⟩
      | cons item items => exact .inr ⟨_, rfl, by simp [ReportsNone], rfl, by simp⟩
    | bool b => exact .inr ⟨_, rfl, by simp [ReportsNone], rfl, by simp⟩
    | number n => exact .inr ⟨_, rfl, by simp [ReportsNone], rfl, by simp⟩
    | text s => exact .inr ⟨_, rfl, by simp [ReportsNone], rfl, by simp⟩
    | object ms => exact .inr ⟨_, rfl, by simp [ReportsNone], rfl, by simp⟩

/-! ### All that a response can come to -/

namespace Response

/-- The status is that of a success, and the body is an object with these members. -/
def Holds (r : Response) (written : List (String × Json)) : Prop :=
  r.status = 200 ∧ writtenMembers? r.body = some written

variable {r : Response} {written : List (String × Json)}

private theorem Holds.exists_iff (h : r.Holds written) {P : List (String × Json) → Prop} :
    (∃ w, r.Holds w ∧ P w) ↔ P written := by
  constructor
  · rintro ⟨w, hw, hP⟩
    obtain rfl : written = w := Option.some.inj (h.2.symm.trans hw.2)
    exact hP
  · exact fun hP => ⟨written, h, hP⟩

private theorem Holds.forall_iff (h : r.Holds written) {P : List (String × Json) → Prop} :
    (∀ w, r.Holds w → P w) ↔ P written := by
  constructor
  · exact fun hall => hall written h
  · intro hP w hw
    obtain rfl : written = w := Option.some.inj (h.2.symm.trans hw.2)
    exact hP

private theorem Holds.status_eq (h : r.Holds written) : r.status = okStatus := h.1

private theorem Holds.parse?_body (h : r.Holds written) : parse? r.body = some (.object (Keyed.ofPairs written)) :=
  parse?_eq_object_iff.2 ⟨written, h.2, rfl⟩

end Response

private theorem interpret_of_status_ne {r : Response} (h : r.status ≠ 200) : interpret r = .error (.status r) := by
  have hother : r.status ≠ okStatus := h
  rw [interpret, if_pos hother]

private theorem interpret_of_no_object {r : Response} (hstatus : r.status = 200) (h : writtenMembers? r.body = none) :
    ∃ cause, interpret r = .error (.decode cause) := by
  have hok : ¬ r.status ≠ okStatus := not_not_intro hstatus
  have hno : ∀ members, parse? r.body ≠ some (.object members) := by
    intro members hp
    obtain ⟨written, hwritten, -⟩ := parse?_eq_object_iff.1 hp
    rw [h] at hwritten
    cases hwritten
  rw [interpret, if_neg hok]
  cases hp : parse? r.body with
  | none => exact ⟨_, rfl⟩
  | some v =>
    cases v with
    | object members => exact absurd hp (hno members)
    | _ => exact ⟨_, rfl⟩

/-- What an object comes to under a status of success. -/
private theorem cases_of_holds {r : Response} {written : List (String × Json)} (h : r.Holds written) :
    (ReportsNone (lastNamed "errors" written) ∧ ∃ v, lastNamed "data" written = some v ∧ interpret r = .ok v) ∨
    (ReportsNone (lastNamed "errors" written) ∧ lastNamed "data" written = none ∧
      interpret r = .error (.decode .noData)) ∨
    ∃ v, lastNamed "errors" written = some v ∧ ¬ ReportsNone (some v) ∧
      interpret r = .error (.backend (v.entries.map BackendError.ofValue)) := by
  rw [interpret, if_neg (not_not_intro h.status_eq), h.parse?_body]
  dsimp only
  have herrors := reportedErrors_eq (Keyed.ofPairs written)
  simp only [find?_ofPairs] at herrors ⊢
  rcases herrors with ⟨hnone, hnil⟩ | ⟨v, hv, hsome, heq, hcons⟩
  · rw [hnil]
    cases lastNamed "data" written with
    | none => exact .inr (.inl ⟨hnone, rfl, rfl⟩)
    | some v => exact .inl ⟨hnone, v, rfl, rfl⟩
  · right; right
    refine ⟨v, hv, hsome, ?_⟩
    rw [← heq]
    cases hes : reportedErrors (Keyed.ofPairs written) with
    | nil => exact absurd hes hcons
    | cons e es => rfl

/-- All that a response can come to, with what makes it come to that. -/
theorem cases_of_interpret (r : Response) :
    (r.status ≠ 200 ∧ interpret r = .error (.status r)) ∨
    (r.status = 200 ∧ (∀ written, ¬ r.Holds written) ∧ ∃ cause, interpret r = .error (.decode cause)) ∨
    ∃ written, r.Holds written ∧
      ((ReportsNone (lastNamed "errors" written) ∧ ∃ v, lastNamed "data" written = some v ∧ interpret r = .ok v) ∨
        (ReportsNone (lastNamed "errors" written) ∧ lastNamed "data" written = none ∧
          interpret r = .error (.decode .noData)) ∨
        ∃ v, lastNamed "errors" written = some v ∧ ¬ ReportsNone (some v) ∧
          interpret r = .error (.backend (v.entries.map BackendError.ofValue))) := by
  by_cases hstatus : r.status = 200
  · right
    cases hw : writtenMembers? r.body with
    | none =>
      left
      refine ⟨hstatus, ?_, interpret_of_no_object hstatus hw⟩
      intro written h
      rw [h.2] at hw
      cases hw
    | some written =>
      right
      have h : r.Holds written := ⟨hstatus, hw⟩
      exact ⟨written, h, cases_of_holds h⟩
  · left
    exact ⟨hstatus, interpret_of_status_ne hstatus⟩

variable {r : Response}

private theorem interpret_eq_ok_iff {v : Json} : interpret r = .ok v ↔
    ∃ written, r.Holds written ∧ ReportsNone (lastNamed "errors" written) ∧ lastNamed "data" written = some v := by
  rcases cases_of_interpret r with ⟨hs, hi⟩ | ⟨-, hnot, cause, hi⟩ | ⟨written, h, hcases⟩
  · have hnot : ∀ written, ¬ r.Holds written := fun written h => hs h.1
    simp [hi, hnot]
  · simp [hi, hnot]
  · rw [h.exists_iff]
    rcases hcases with ⟨hnone, w, hw, hi⟩ | ⟨-, hw, hi⟩ | ⟨w, hw, hsome, hi⟩
    · simp [hi, hnone, hw]
    · simp [hi, hw]
    · simp [hi, hw, hsome]

private theorem interpret_eq_status_iff {x : Response} : interpret r = .error (.status x) ↔ r.status ≠ 200 ∧ x = r := by
  rcases cases_of_interpret r with ⟨hs, hi⟩ | ⟨hs, -, cause, hi⟩ | ⟨written, h, hcases⟩
  · simp [hi, hs, eq_comm]
  · simp [hi, hs]
  · rcases hcases with ⟨-, w, -, hi⟩ | ⟨-, -, hi⟩ | ⟨w, -, -, hi⟩ <;> simp [hi, h.1]

theorem interpret_eq_backend_iff {errors : List BackendError} : interpret r = .error (.backend errors) ↔
    ∃ written, r.Holds written ∧ ∃ v, lastNamed "errors" written = some v ∧ ¬ ReportsNone (some v) ∧
      errors = v.entries.map BackendError.ofValue := by
  rcases cases_of_interpret r with ⟨hs, hi⟩ | ⟨-, hnot, cause, hi⟩ | ⟨written, h, hcases⟩
  · have hnot : ∀ written, ¬ r.Holds written := fun written h => hs h.1
    simp [hi, hnot]
  · simp [hi, hnot]
  · rw [h.exists_iff]
    have hno : ReportsNone (lastNamed "errors" written) →
        ¬ ∃ v, lastNamed "errors" written = some v ∧ ¬ ReportsNone (some v) ∧
          errors = v.entries.map BackendError.ofValue := by
      rintro hnone ⟨v, hv, hsome, -⟩
      exact hsome (hv ▸ hnone)
    rcases hcases with ⟨hnone, w, -, hi⟩ | ⟨hnone, -, hi⟩ | ⟨w, hw, hsome, hi⟩
    · simp [hi, hno hnone]
    · simp [hi, hno hnone]
    · simp [hi, hw, hsome, eq_comm]

private theorem exists_interpret_eq_decode_iff : (∃ cause, interpret r = .error (.decode cause)) ↔
    r.status = 200 ∧ ∀ written, r.Holds written →
      ReportsNone (lastNamed "errors" written) ∧ lastNamed "data" written = none := by
  rcases cases_of_interpret r with ⟨hs, hi⟩ | ⟨hs, hnot, cause, hi⟩ | ⟨written, h, hcases⟩
  · simp [hi, hs]
  · simp [hi, hs, hnot]
  · rw [h.forall_iff]
    rcases hcases with ⟨-, w, hw, hi⟩ | ⟨hnone, hw, hi⟩ | ⟨w, hw, hsome, hi⟩
    · simp [hi, hw]
    · simp [hi, h.1, hnone, hw]
    · simp [hi, hw, hsome]

private theorem interpret_ne_transport (cause : TransportError) : interpret r ≠ .error (.transport cause) := by
  rcases cases_of_interpret r with ⟨-, hi⟩ | ⟨-, -, c, hi⟩ | ⟨written, -, hcases⟩
  · simp [hi]
  · simp [hi]
  · rcases hcases with ⟨-, w, -, hi⟩ | ⟨-, -, hi⟩ | ⟨w, -, -, hi⟩ <;> simp [hi]

/-- Objects with the same `errors` and the same `data` come to the same, but that a response of another status is given
back with its body. -/
private theorem interpret_congr {body : String} {written written' : List (String × Json)}
    (h : writtenMembers? r.body = some written) (h' : writtenMembers? body = some written')
    (herrors : lastNamed "errors" written' = lastNamed "errors" written)
    (hdata : lastNamed "data" written' = lastNamed "data" written) :
    interpret ⟨r.status, body⟩ = if r.status = 200 then interpret r else .error (.status ⟨r.status, body⟩) := by
  by_cases hstatus : r.status = 200
  · have hw : r.Holds written := ⟨hstatus, h⟩
    have hw' : Response.Holds ⟨r.status, body⟩ written' := ⟨hstatus, h'⟩
    rw [if_pos hstatus, interpret, interpret, if_neg (not_not_intro hw.status_eq), if_neg (not_not_intro hw'.status_eq),
      hw.parse?_body, hw'.parse?_body]
    simp only [reportedErrors, find?_ofPairs, herrors, hdata]
  · rw [if_neg hstatus]
    exact interpret_of_status_ne hstatus

/-- A response comes to the value of `data` if its status is 200 and its body an object that has this member and reports
no errors; to itself if its status is another one; to the reported errors, one for each entry in order, if an object
under status 200 reports any, whatever its `data`; and otherwise it cannot be read. No member but the last `errors` and
the last `data` makes a difference. -/
theorem response_classified (r : Response) :
    (∀ v, interpret r = .ok v ↔
      ∃ written, r.Holds written ∧ ReportsNone (lastNamed "errors" written) ∧ lastNamed "data" written = some v) ∧
    (∀ x, interpret r = .error (.status x) ↔ r.status ≠ 200 ∧ x = r) ∧
    (∀ errors, interpret r = .error (.backend errors) ↔
      ∃ written, r.Holds written ∧ ∃ v, lastNamed "errors" written = some v ∧ ¬ ReportsNone (some v) ∧
        errors = v.entries.map BackendError.ofValue) ∧
    ((∃ cause, interpret r = .error (.decode cause)) ↔
      r.status = 200 ∧ ∀ written, r.Holds written →
        ReportsNone (lastNamed "errors" written) ∧ lastNamed "data" written = none) ∧
    (∀ cause, interpret r ≠ .error (.transport cause)) ∧
    (∀ body written written', writtenMembers? r.body = some written → writtenMembers? body = some written' →
      lastNamed "errors" written' = lastNamed "errors" written → lastNamed "data" written' = lastNamed "data" written →
      interpret ⟨r.status, body⟩ = if r.status = 200 then interpret r else .error (.status ⟨r.status, body⟩)) :=
  ⟨fun _ => interpret_eq_ok_iff, fun _ => interpret_eq_status_iff, fun _ => interpret_eq_backend_iff,
    exists_interpret_eq_decode_iff, interpret_ne_transport, fun _ _ _ => interpret_congr⟩

/-- The errors are taken back by a later member, and the data is replaced by a later one. Errors that come later than an
empty list are reported, each entry converted, and no data makes up for them. -/
theorem data_of_last_members :
    let r : Response :=
      ⟨200, "\x7b\"errors\":[\"old\"],\"data\":1,\"hint\":\x7b\x7d,\"errors\":[],\"data\":[null]\x7d"⟩
    let plain : String := "\x7b\"data\":[null],\"errors\":[]\x7d"
    let failing : Response :=
      ⟨200, "\x7b\"errors\":[],\"data\":1,\"errors\":[\x7b\"message\":\"denied\",\"code\":7\x7d,\"gone\",5]\x7d"⟩
    interpret r = .ok (.array [.null]) ∧ interpret ⟨200, plain⟩ = interpret r ∧
      interpret failing = .error (.backend [⟨"denied", [("code", .number (.int 7))]⟩, ⟨"gone", []⟩, ⟨"5", []⟩]) := by
  intro r plain failing
  have hr : writtenMembers? r.body = some [("errors", .array [.text "old"]), ("data", .number (.int 1)),
      ("hint", .object []), ("errors", .array []), ("data", .array [.null])] := by
    cbv
  have hplain : writtenMembers? plain = some [("data", .array [.null]), ("errors", .array [])] := by cbv
  let entries : List Json :=
    [.object [("code", .number (.int 7)), ("message", .text "denied")], .text "gone", .number (.int 5)]
  have hfailing : writtenMembers? failing.body = some [("errors", .array []), ("data", .number (.int 1)),
      ("errors", .array entries)] := by
    cbv
  have hconverted : [⟨"denied", [("code", .number (.int 7))]⟩, ⟨"gone", []⟩, ⟨"5", []⟩] =
      entries.map BackendError.ofValue := by
    cbv
  obtain ⟨hok, -, -, -, -, hothers⟩ := response_classified r
  obtain ⟨-, -, hbackend, -⟩ := response_classified failing
  refine ⟨(hok _).2 ⟨_, ⟨rfl, hr⟩, .inr (.inr rfl), rfl⟩, hothers plain _ _ hr hplain rfl rfl, ?_⟩
  exact (hbackend _).2 ⟨_, ⟨rfl, hfailing⟩, .array entries, rfl, by simp [ReportsNone, entries], hconverted⟩

end ConsoleShell
