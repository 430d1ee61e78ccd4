import ConsoleShell.Proofs.Classification

/-!
# What becomes of a reported error

An entry of the `errors` of a response is surfaced as it is if it becomes its message, where that is a text, together
with all its other members, and keeps all its members where it has no such message. The conversion takes a message of any
type out of the entry, and a message that is no text it writes as JSON: such an entry is not surfaced as it is.

* `surfaces_ofValue_iff`: which objects are surfaced as they are.
* `surfaced_iff`: the same for the entries of a response, which are all there and in their order.
* `number_for_message`: an entry that is not surfaced as it is.
-/

namespace ConsoleShell

open Json Text

namespace BackendError

/-- The error tells all of an entry with these members: the message if it is a text, and all members otherwise. -/
def Surfaces (e : BackendError) (fields : Members) : Prop :=
  match Keyed.find? "message" fields with
  | some (.text s) => e.message = s ∧ e.extra = Keyed.erase "message" fields
  | _ => e.message = "" ∧ e.extra = fields

/-- What is under `message` is a text, if there is anything. -/
def HasPlainMessage (fields : Members) : Prop := ∀ v, Keyed.find? "message" fields = some v → ∃ s, v = .text s

/-- A message that is no text is written as JSON and taken out of the other members. -/
private theorem ofValue_of_not_text {fields : Members} {v : Json} (h : Keyed.find? "message" fields = some v)
    (hv : ∀ s, v ≠ .text s) :
    (ofValue (.object fields)).message = v.print ∧
      (ofValue (.object fields)).extra = Keyed.erase "message" fields := by
  cases v with
  | text s => exact absurd rfl (hv s)
  | _ => simp [ofValue, messageKey, h]

theorem surfaces_ofValue_iff (fields : Members) :
    (ofValue (.object fields)).Surfaces fields ↔ HasPlainMessage fields := by
  rw [Surfaces, HasPlainMessage]
  cases h : Keyed.find? "message" fields with
  | none =>
    simp [ofValue, messageKey, h, Keyed.erase_of_find?_eq_none h]
  | some v =>
    by_cases hv : ∃ s, v = .text s
    · obtain ⟨s, rfl⟩ := hv
      simp [ofValue, messageKey, h]
    · have hno : ∀ s, v ≠ .text s := fun s hs => hv ⟨s, hs⟩
      have hextra := (ofValue_of_not_text h hno).2
      -- the message is gone from the other members, so they are not all members
      have hloss : (ofValue (.object fields)).extra ≠ fields := by
        intro hsame
        have hgone := Keyed.find?_erase "message" "message" fields
        rw [← hextra, hsame, h, if_pos rfl] at hgone
        cases hgone
      have hsurfaces : ¬ ((ofValue (.object fields)).message = "" ∧ (ofValue (.object fields)).extra = fields) :=
        fun hs => hloss hs.2
      constructor
      · intro hs
        cases v with
        | text s => exact absurd rfl (hno s)
        | _ => exact absurd hs hsurfaces
      · intro hplain
        exact absurd (hplain v rfl) hv

end BackendError

/-- The errors that a response reports in an array are all there, each in its place. An entry that is an object is
surfaced as it is exactly if its message is a text or missing; any other message is written as JSON and taken out of the
entry. -/
theorem surfaced_iff {r : Response} {written : List (String × Json)} {items : List Json} (hr : r.Holds written)
    (herrors : lastNamed "errors" written = some (.array items)) (hitems : items ≠ []) :
    ∃ errors : List BackendError, interpret r = .error (.backend errors) ∧ errors.length = items.length ∧
      (∀ i : Nat, errors[i]? = items[i]?.map BackendError.ofValue) ∧
      ∀ (i : Nat) (fields : Members) (e : BackendError), items[i]? = some (.object fields) → errors[i]? = some e →
        (e.Surfaces fields ↔ BackendError.HasPlainMessage fields) ∧
        ∀ v, Keyed.find? "message" fields = some v → (∀ s, v ≠ .text s) →
          e.message = v.print ∧ e.extra = Keyed.erase "message" fields := by
  have hsome : ¬ ReportsNone (some (.array items)) := by simp [ReportsNone, hitems]
  refine ⟨items.map BackendError.ofValue, ?_, List.length_map _, fun i => List.getElem?_map, ?_⟩
  · exact interpret_eq_backend_iff.2 ⟨written, hr, _, herrors, hsome, rfl⟩
  · intro i fields e hi he
    rw [List.getElem?_map, hi, Option.map_some, Option.some.injEq] at he
    subst he
    exact ⟨BackendError.surfaces_ofValue_iff fields, fun v hv hno => BackendError.ofValue_of_not_text hv hno⟩

/-- A message with a place, and an entry without a message. -/
theorem surfaced_in_order :
    let r : Response :=
      ⟨200, "\x7b\"errors\":[\x7b\"path\":[\"org\"],\"message\":\"denied\"\x7d,\x7b\"code\":401\x7d]\x7d"⟩
    let first : Members := [("message", .text "denied"), ("path", .array [.text "org"])]
    let second : Members := [("code", .number (.int 401))]
    r.Holds [("errors", .array [.object first, .object second])] ∧
      ∃ errors : List BackendError, interpret r = .error (.backend errors) ∧ errors.length = 2 ∧
        (∃ e, errors[0]? = some e ∧ e.message = "denied" ∧ e.extra = [("path", .array [.text "org"])]) ∧
        ∃ e, errors[1]? = some e ∧ e.message = "" ∧ e.extra = second := by
  intro r first second
  have hr : r.Holds [("errors", .array [.object first, .object second])] := ⟨rfl, by cbv⟩
  have hfirst : BackendError.HasPlainMessage first := by
    intro v hv
    exact ⟨"denied", (Option.some.inj hv).symm⟩
  have hsecond : BackendError.HasPlainMessage second := by
    intro v hv
    cases hv
  obtain ⟨errors, hi, hlength, hplace, hall⟩ := surfaced_iff hr rfl (by simp)
  have h0 := (hall 0 first _ rfl (hplace 0)).1.2 hfirst
  have h1 := (hall 1 second _ rfl (hplace 1)).1.2 hsecond
  exact ⟨hr, errors, hi, hlength, ⟨_, hplace 0, h0⟩, _, hplace 1, h1⟩

/-- A number in the place of the message becomes the text that writes it, and is taken out of the entry. -/
theorem number_for_message :
    let r : Response := ⟨200, "\x7b\"errors\":[\x7b\"message\":5\x7d]\x7d"⟩
    let fields : Members := [("message", .number (.int 5))]
    r.Holds [("errors", .array [.object fields])] ∧
      interpret r = .error (.backend [⟨"5", []⟩]) ∧ ¬ BackendError.Surfaces ⟨"5", []⟩ fields := by
  intro r fields
  refine ⟨⟨rfl, by cbv⟩, by cbv, ?_⟩
  rintro ⟨hmessage, -⟩
  simp at hmessage

end ConsoleShell
