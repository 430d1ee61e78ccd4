import ConsoleShell.Exchange.BackendError

/-!
# Reported errors, read and written

An error has two readers: `ofValue` takes whatever comes, `decode?` an object with a text for a message. The errors
they give are `Tidy`: the message is not among the other members. A tidy error is written as its other members with the
message put in, from which both readers get it back.

* `decode?_eq_some_iff`: what the strict reader takes, and that it reads the same from it.
* `Tidy.ofValue_toJson`, `Tidy.decode?_toJson`: what was written is read again.
* `readers_agree`: both readers and the writer on any value with its names in order, as all values that are read from a
  text have them (`Json.canonical_of_parse?`).
-/

namespace ConsoleShell.BackendError

open Text Text.Keyed

variable {e : BackendError} {v : Json} {members : Json.Members}

private theorem takeMembers_of_absent (message : Option String) (others : List (String × Json))
    (h : find? messageKey members = none) :
    takeMembers message others members = some { message := message.getD "", extra := ofPairs (others ++ members) } := by
  induction members generalizing others with
  | nil => simp [takeMembers]
  | cons m rest ih =>
    obtain ⟨k, w⟩ := m
    by_cases hk : k = messageKey
    · simp [find?, hk] at h
    · simp only [find?, hk, if_false] at h
      simp [takeMembers, hk, ih _ h]

/-- Among names in order the message comes once at most, and then it has to be a text. -/
private theorem takeMembers_of_ascending (hmembers : members.Ascending) (others : List (String × Json)) :
    takeMembers none others members =
      match find? messageKey members with
      | none => some { message := "", extra := ofPairs (others ++ members) }
      | some (.text s) => some { message := s, extra := ofPairs (others ++ members.erase messageKey) }
      | some _ => none := by
  induction members generalizing others with
  | nil => simp [takeMembers]
  | cons m rest ih =>
    obtain ⟨k, w⟩ := m
    obtain ⟨hlt, hrest⟩ := ascending_cons.1 hmembers
    rw [erase_cons]
    by_cases hk : k = messageKey
    · subst hk
      have habsent : find? messageKey rest = none := find?_eq_none_of_lt hlt
      rw [if_pos rfl, erase_of_find?_eq_none habsent]
      cases w <;> simp [takeMembers, find?, takeMembers_of_absent _ _ habsent]
    · simp only [takeMembers, find?, hk, if_false, ih hrest]
      cases find? messageKey rest with
      | none => simp
      | some m => cases m <;> simp

private theorem decode?_object (h : members.Ascending) :
    decode? (.object members) =
      match find? messageKey members with
      | none => some (ofValue (.object members))
      | some (.text _) => some (ofValue (.object members))
      | some _ => none := by
  rw [decode?, takeMembers_of_ascending h]
  split
  · rename_i hfind
    simp [ofValue, hfind, erase_of_find?_eq_none hfind, h.ofPairs_eq]
  · rename_i hfind
    simp [ofValue, hfind, (h.erase messageKey).ofPairs_eq]
  · rfl

/-- What the strict reader takes, and what it makes of it. -/
theorem decode?_eq_some_iff (h : v.Canonical) :
    decode? v = some e ↔
      (∃ members, v = .object members ∧ ∀ m, find? messageKey members = some m → ∃ s, m = .text s) ∧
        e = ofValue v := by
  cases v with
  | object members =>
    rw [decode?_object h.1]
    cases hfind : find? messageKey members with
    | none => simp [hfind, eq_comm]
    | some m => cases m <;> simp [hfind, eq_comm]
  | _ => simp [decode?]

/-- The other members stand in order, and the message is not among them. -/
structure Tidy (e : BackendError) : Prop where
  ascending : e.extra.Ascending
  absent : find? messageKey e.extra = none

private theorem tidy_ofValue (h : v.Canonical) : (ofValue v).Tidy := by
  cases v with
  | object members => exact ⟨h.1.erase messageKey, by simp [ofValue, find?_erase]⟩
  | _ => exact ⟨ascending_nil, rfl⟩

private theorem Tidy.toJson_eq (h : e.Tidy) : e.toJson = .object (e.extra.insert messageKey (.text e.message)) := by
  rw [toJson, h.ascending.ofPairs_cons h.absent]

theorem Tidy.ofValue_toJson (h : e.Tidy) : ofValue e.toJson = e := by
  rw [h.toJson_eq]
  simp [ofValue, find?_insert, h.ascending.erase_insert h.absent]

theorem Tidy.decode?_toJson (h : e.Tidy) : decode? e.toJson = some e := by
  have hread := h.ofValue_toJson
  rw [h.toJson_eq] at hread ⊢
  rw [decode?_object (h.ascending.insert _ _), hread]
  simp [find?_insert]

private theorem canonical_toJson (h : v.Canonical) : (ofValue v).toJson.Canonical := by
  rw [(tidy_ofValue h).toJson_eq]
  refine ⟨(tidy_ofValue h).ascending.insert _ _, Json.canonicalMembers_iff.2 fun m hm => ?_⟩
  rcases mem_insert hm with rfl | hm
  · trivial
  · cases v with
    | object members => exact Json.canonicalMembers_iff.1 h.2 m (List.mem_filter.1 hm).1
    | _ => exact absurd hm List.not_mem_nil

/-- A message that was sent is written back where it was. -/
private theorem toJson_ofValue_of_text (h : (Json.object members).Canonical) {s : String}
    (hs : find? messageKey members = some (.text s)) : (ofValue (.object members)).toJson = .object members := by
  rw [(tidy_ofValue h).toJson_eq]
  simp [ofValue, hs, h.1.insert_erase hs]

/-- A message that is missing is written as an empty one. -/
private theorem toJson_ofValue_of_absent (h : (Json.object members).Canonical)
    (hnone : find? messageKey members = none) :
    (ofValue (.object members)).toJson = .object (members.insert messageKey (.text "")) := by
  rw [(tidy_ofValue h).toJson_eq]
  simp [ofValue, hnone, erase_of_find?_eq_none hnone]

/-- The strict reader takes exactly the objects whose message is a text or missing, and reads from them what the
other reader does. Whatever was read has no second message, is written as one object of the message and all else,
and both readers get it back from there. An object with a text for a message is written as it came, and one
without a message gets an empty one. -/
theorem readers_agree (h : v.Canonical) :
    ((∃ e, decode? v = some e) ↔
      ∃ members, v = .object members ∧ ∀ m, find? "message" members = some m → ∃ s, m = .text s) ∧
    (∀ e, decode? v = some e → e = ofValue v) ∧
    find? "message" (ofValue v).extra = none ∧
    (ofValue v).toJson.Canonical ∧
    (∃ members, (ofValue v).toJson = .object members ∧
      ∀ key, find? key members =
        if key = "message" then some (.text (ofValue v).message) else find? key (ofValue v).extra) ∧
    ofValue (ofValue v).toJson = ofValue v ∧
    decode? (ofValue v).toJson = some (ofValue v) ∧
    (∀ members s, v = .object members → find? "message" members = some (.text s) → (ofValue v).toJson = v) ∧
    (∀ members, v = .object members → find? "message" members = none →
      (ofValue v).toJson = .object (Keyed.insert "message" (.text "") members)) := by
  have htidy := tidy_ofValue h
  refine ⟨?accepted, fun e he => ((decode?_eq_some_iff h).1 he).2, htidy.absent, canonical_toJson h, ?written,
    htidy.ofValue_toJson, htidy.decode?_toJson, ?kept, ?filled⟩
  case accepted =>
    refine ⟨fun ⟨e, he⟩ => ((decode?_eq_some_iff h).1 he).1, fun hobject => ?_⟩
    exact ⟨ofValue v, (decode?_eq_some_iff h).2 ⟨hobject, rfl⟩⟩
  case written =>
    refine ⟨_, htidy.toJson_eq, fun key => ?_⟩
    rw [find?_insert]
    simp only [messageKey, eq_comm]
  case kept =>
    rintro members s rfl hs
    exact toJson_ofValue_of_text h hs
  case filled =>
    rintro members rfl hnone
    exact toJson_ofValue_of_absent h hnone

theorem readers_agree_on_object :
    let v : Json := .object [("message", .text "forbidden"), ("path", .array [.text "me"])]
    v.Canonical ∧ decode? v = some { message := "forbidden", extra := [("path", .array [.text "me"])] } ∧
      (ofValue v).toJson = v := by
  intro v
  have hv : v.Canonical := ⟨by decide, by simp [Json.CanonicalMembers, Json.Canonical, Json.CanonicalItems]⟩
  obtain ⟨haccepted, hsame, -, -, -, -, -, hkept, -⟩ := readers_agree hv
  obtain ⟨e, he⟩ := haccepted.2 ⟨_, rfl, fun m hm => ⟨"forbidden", by simpa [find?, eq_comm] using hm⟩⟩
  refine ⟨hv, ?_, hkept _ "forbidden" rfl (by simp [find?])⟩
  rw [he, hsame e he]
  simp [v, ofValue, messageKey, find?, Keyed.erase]

end ConsoleShell.BackendError
