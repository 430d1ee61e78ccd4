import ConsoleShell.Proofs.Delivery

/-!
# Subscriptions that end

Observers are numbered in the order of subscription, and no number is used twice (`Registry.Ascending`). So an observer
that is taken off the registry never comes back. A round that is already under way does not look at the registry again:
it still calls everybody whom it has yet to reach.

* `callsTo_calls_append_due`: an observer off the registry is called for the rounds under way that have yet to reach it,
  once for each, and for nothing else.
* `silent_iff_not_awaits`: so the end of a subscription stops the calls at once exactly if no such round is under way.
* `called_after_unsubscribe`: an observer that is called after it has been unsubscribed.
-/

namespace ConsoleShell

namespace Registry

/-- The numbers ascend in the order of subscription, and the next one is larger than any of them. -/
structure Ascending (r : Registry) : Prop where
  ids : r.ids.Pairwise (· < ·)
  next : ∀ id ∈ r.ids, id < r.next

theorem Ascending.subscribe {r : Registry} (h : r.Ascending) : r.subscribe.Ascending where
  ids := by
    rw [Registry.subscribe, List.pairwise_append]
    refine ⟨h.ids, List.pairwise_singleton _ _, ?_⟩
    intro a ha b hb
    obtain rfl : b = r.next := by simpa using hb
    exact h.next a ha
  next := by
    intro id hid
    rcases List.mem_append.1 hid with hid | hid
    · exact Nat.lt_succ_of_lt (h.next id hid)
    · obtain rfl : id = r.next := by simpa using hid
      exact Nat.lt_succ_self _

theorem Ascending.unsubscribe {r : Registry} (h : r.Ascending) (id : Nat) : (r.unsubscribe id).Ascending where
  ids := h.ids.filter _
  next := fun i hi => h.next i (List.mem_filter.1 hi).1

private theorem Ascending.clear {r : Registry} : r.clear.Ascending where
  ids := List.Pairwise.nil
  next := by simp [Registry.clear]

end Registry

def callsTo (id : Nat) (cs : List Call) : List Call := cs.filter (·.observer = id)

/-- The calls to an observer that open rounds have still to make, in the order in which they will be made. -/
def due (id : Nat) : List Round → List Call
  | [] => []
  | r :: rs => (r.waiting.filter (· = id)).map (⟨·, r.state⟩) ++ due id rs

/-- The command ends the subscription of the observer. -/
def Command.silences (id : Nat) : Command → Bool
  | .unsubscribe i => i = id
  | .teardown => true
  | _ => false

namespace Store

theorem ascending_move {s : Store} (h : s.registry.Ascending) (m : Move) : (s.move m).1.registry.Ascending := by
  cases m with
  | proceed => simpa [move] using h
  | issue c =>
    cases c with
    | mutate m => simpa [move, issue, apply] using h
    | subscribe => exact h.subscribe
    | unsubscribe id => exact h.unsubscribe id
    | teardown => exact .clear
    | change c => exact h

theorem ascending_run {s : Store} (h : s.registry.Ascending) (ms : List Move) : (s.run ms).registry.Ascending := by
  induction ms generalizing s with
  | nil => exact h
  | cons m ms ih => exact ih (ascending_move h m)

theorem ascending_new (storage : Storage) : (new storage).registry.Ascending where
  ids := List.Pairwise.nil
  next := by simp [new]

/-- Only numbers that have not been used yet come to the registry. -/
private theorem mem_registry_of_move {s : Store} {id : Nat} {m : Move} (h : id ∈ (s.move m).1.registry.ids)
    (hlt : id < s.registry.next) : id ∈ s.registry.ids := by
  cases m with
  | proceed => simpa [move] using h
  | issue c =>
    cases c with
    | mutate m => simpa [move, issue, apply] using h
    | subscribe =>
      rcases List.mem_append.1 h with h | h
      · exact h
      · have : id = s.registry.next := by simpa using h
        omega
    | unsubscribe i => exact (List.mem_filter.1 h).1
    | teardown => simp [move, issue, Registry.clear] at h
    | change c => exact h

theorem next_le_move (s : Store) (m : Move) : s.registry.next ≤ (s.move m).1.registry.next := by
  cases m with
  | proceed => simp [move]
  | issue c =>
    cases c with
    | mutate m => simp [move, issue, apply]
    | subscribe => exact Nat.le_succ _
    | unsubscribe id => exact Nat.le_refl _
    | teardown => exact Nat.le_refl _
    | change c => exact Nat.le_refl _

/-! ### Calls that are still due -/

private theorem due_eq_nil_iff {id : Nat} {rs : List Round} : due id rs = [] ↔ ¬ ∃ r ∈ rs, id ∈ r.waiting := by
  induction rs with
  | nil => simp [due]
  | cons r rs ih =>
    have hr : r.waiting.filter (· = id) = [] ↔ id ∉ r.waiting := by
      rw [List.filter_eq_nil_iff]
      constructor
      · intro h hm
        exact h id hm (by simp)
      · intro h i hi hid
        obtain rfl : i = id := by simpa using hid
        exact h hi
    simp only [due, List.append_eq_nil_iff, List.map_eq_nil_iff, hr, ih, List.mem_cons, exists_eq_or_imp, not_or]

/-- A new round passes over an observer that is not on the registry. -/
private theorem callsTo_openRound {s : Store} {id : Nat} (h : id ∉ s.registry.ids) :
    callsTo id s.openRound.2.toList ++ due id s.openRound.1.rounds = due id s.rounds := by
  cases hids : s.registry.ids with
  | nil =>
    rw [openRound_of_nil hids]
    rfl
  | cons i rest =>
    rw [hids, List.mem_cons, not_or] at h
    have hrest : rest.filter (· = id) = [] := by
      rw [List.filter_eq_nil_iff]
      intro j hj hid
      obtain rfl : j = id := by simpa using hid
      exact h.2 hj
    rw [openRound_of_cons hids]
    simp [callsTo, due, hrest, Ne.symm h.1]

/-- A call that a round makes is no longer due. -/
private theorem callsTo_proceed (s : Store) (id : Nat) :
    callsTo id s.proceed.2.toList ++ due id s.proceed.1.rounds = due id s.rounds := by
  unfold proceed
  split
  · rename_i h; simp [callsTo, h]
  · rename_i r rs h
    rw [h]
    split
    · rename_i hw; simp [callsTo, due, hw]
    · rename_i i rest hw
      by_cases hi : i = id
      · subst hi; simp [callsTo, due, hw]
      · simp [callsTo, due, hw, hi]

private theorem callsTo_move {s : Store} {id : Nat} (m : Move) (h : id ∉ s.registry.ids) :
    callsTo id (s.move m).2.toList ++ due id (s.move m).1.rounds = due id s.rounds := by
  cases m with
  | proceed => exact callsTo_proceed s id
  | issue c =>
    cases c with
    | mutate m => exact callsTo_openRound (s := s.apply m) h
    | subscribe => rfl
    | unsubscribe i => rfl
    | teardown => rfl
    | change c => rfl

/-- An observer off the registry gets the calls that are due, one by one, and no other. -/
theorem callsTo_calls_append_due {s : Store} {id : Nat} (ms : List Move) (h : id ∉ s.registry.ids)
    (hlt : id < s.registry.next) : callsTo id (s.calls ms) ++ due id (s.run ms).rounds = due id s.rounds := by
  induction ms generalizing s with
  | nil => rfl
  | cons m ms ih =>
    have hnext : id < (s.move m).1.registry.next := Nat.lt_of_lt_of_le hlt (s.next_le_move m)
    have hrest := ih (fun hm => h (mem_registry_of_move hm hlt)) hnext
    have hmove := callsTo_move m h
    rw [calls, run_cons, callsTo, List.filter_append, List.append_assoc]
    rw [callsTo] at hrest hmove
    rw [hrest, hmove]

private theorem run_replicate_proceed (s : Store) : ∃ n, (s.run (List.replicate n .proceed)).rounds = [] := by
  obtain ⟨rs, hrs⟩ : ∃ rs, s.rounds = rs := ⟨_, rfl⟩
  induction rs generalizing s with
  | nil => exact ⟨0, hrs⟩
  | cons r rs ih =>
    obtain ⟨state, running, waiting⟩ := r
    -- within a round, on the observers that it has yet to reach
    induction waiting generalizing s running with
    | nil =>
      have hnext : (s.move .proceed).1.rounds = rs := by simp [move, proceed, hrs]
      obtain ⟨n, hn⟩ := ih (s.move .proceed).1 hnext
      exact ⟨n + 1, hn⟩
    | cons id rest ihw =>
      have hnext : (s.move .proceed).1.rounds = ⟨state, id, rest⟩ :: rs := by simp [move, proceed, hrs]
      obtain ⟨n, hn⟩ := ihw (s.move .proceed).1 id hnext
      exact ⟨n + 1, hn⟩

private theorem rounds_of_silences {c : Command} {id : Nat} (h : c.silences id) (s : Store) :
    (s.issue c).1.rounds = s.rounds := by
  cases c with
  | unsubscribe i => rfl
  | teardown => rfl
  | mutate m => simp [Command.silences] at h
  | subscribe => simp [Command.silences] at h
  | change c => simp [Command.silences] at h

theorem not_mem_of_silences {c : Command} {id : Nat} (h : c.silences id) (s : Store) :
    id ∉ (s.issue c).1.registry.ids := by
  cases c with
  | unsubscribe i =>
    have hi : i = id := by simpa [Command.silences] using h
    simp [issue, Registry.unsubscribe, hi]
  | teardown => simp [issue, Registry.clear]
  | mutate m => simp [Command.silences] at h
  | subscribe => simp [Command.silences] at h
  | change c => simp [Command.silences] at h

/-- Once an observer has been unsubscribed or torn down, it gets the calls of the rounds under way that had yet to reach
it, and no other. It is never called again exactly if there was no such round. -/
theorem silent_iff_not_awaits {storage : Storage} {before : List Move} {id : Nat} {c : Command}
    (hid : ((new storage).run before).registry.contains id) (hc : c.silences id) :
    let s := (new storage).run before
    let ended := (s.issue c).1
    (∀ after, callsTo id (ended.calls after) <+: due id s.rounds) ∧
      (∀ after, (ended.run after).rounds = [] → callsTo id (ended.calls after) = due id s.rounds) ∧
      ((∀ after, callsTo id (ended.calls after) = []) ↔ ¬ s.Awaits id) := by
  intro s ended
  have hmem : id ∈ s.registry.ids := by simpa [Registry.contains] using hid
  have hlt : id < s.registry.next := (ascending_run (ascending_new storage) before).next id hmem
  have hnext : id < ended.registry.next := Nat.lt_of_lt_of_le hlt (s.next_le_move (.issue c))
  have hrounds : ended.rounds = s.rounds := rounds_of_silences hc s
  have hcalls : ∀ after, callsTo id (ended.calls after) ++ due id (ended.run after).rounds = due id s.rounds := by
    intro after
    rw [callsTo_calls_append_due after (not_mem_of_silences hc s) hnext, hrounds]
  have hall : ∀ after, (ended.run after).rounds = [] → callsTo id (ended.calls after) = due id s.rounds := by
    intro after hafter
    have h := hcalls after
    rwa [hafter, due, List.append_nil] at h
  refine ⟨fun after => ⟨_, hcalls after⟩, hall, ?_⟩
  rw [Awaits, ← due_eq_nil_iff]
  constructor
  · intro hsilent
    -- let everybody return: then all calls that are due have been made
    obtain ⟨n, hn⟩ := run_replicate_proceed ended
    rw [← hall _ hn]
    exact hsilent _
  · intro hdue after
    have h := hcalls after
    rw [hdue] at h
    exact (List.append_eq_nil_iff.1 h).1

/-- The second observer ends an attempt as soon as it is told of it. When it is told of the end as well, it is unsubscribed:
two rounds are open, and neither has yet to reach it. -/
theorem unsubscribed_between_rounds :
    let before : List Move :=
      [.issue .subscribe, .issue .subscribe, .issue (.mutate .beginAttempt), .proceed, .issue (.mutate .endAttempt),
        .proceed]
    let s := (new (.register { key := "token" })).run before
    s.registry.contains 1 ∧ Command.silences 1 (.unsubscribe 1) ∧ s.rounds ≠ [] ∧
      ∀ after, callsTo 1 ((s.issue (.unsubscribe 1)).1.calls after) = [] := by
  intro before s
  have hid : s.registry.contains 1 := by decide
  exact ⟨hid, by decide, by decide, (silent_iff_not_awaits hid (by decide)).2.2.2 (by decide)⟩

/-- The first observer ends the subscription of the second one, or all of them, when it is called; the second one is
called all the same. -/
theorem called_after_unsubscribe :
    let s := (new (.register { key := "token" })).run
      [.issue .subscribe, .issue .subscribe, .issue (.mutate .beginAttempt)]
    s.registry.contains 1 = true ∧
      callsTo 1 ((s.issue (.unsubscribe 1)).1.calls [.proceed]) = [⟨1, { authenticating := true }⟩] ∧
      callsTo 1 ((s.issue .teardown).1.calls [.proceed]) = [⟨1, { authenticating := true }⟩] := by
  decide

end Store

end ConsoleShell
