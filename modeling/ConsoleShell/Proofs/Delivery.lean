import ConsoleShell.Session.Store

/-!
# The state an observer ends up with

A mutation made by an observer in the middle of a round is delivered at once, before the round goes on with its own,
older state. So a mutation reaches an observer for good only if no older delivery is on its way to that observer at
the moment it is made; call it *direct* for the observer then.

* `lastState_calls`: from a store without open rounds to one without, the state delivered last to an observer that
  stays registered is the state right after the last mutation that was direct for it.
* `lastState_calls_eq_snapshot_iff`: so the observer ends up with the state of the store exactly if that mutation has
  left it.
* `lastState_calls_of_direct`: it does if every mutation was direct for it.
* `left_behind`: two observers, of which the first one signs out: the second one takes the session for authenticated.
-/

namespace ConsoleShell

def lastState (id : Nat) : List Call → Option AuthState
  | [] => none
  | c :: cs => (lastState id cs).or (if c.observer = id then some c.state else none)

/-- The last delivery that open rounds have still to make to an observer; the outermost round makes it. -/
def dueState (id : Nat) : List Round → Option AuthState
  | [] => none
  | r :: rs => (dueState id rs).or (if id ∈ r.waiting then some r.state else none)

namespace Store

/-- A round under way has yet to reach the observer. -/
def Awaits (s : Store) (id : Nat) : Prop := ∃ r ∈ s.rounds, id ∈ r.waiting

instance (s : Store) (id : Nat) : Decidable (s.Awaits id) :=
  inferInstanceAs (Decidable (∃ r ∈ s.rounds, id ∈ r.waiting))

def Move.mutates : Move → Bool
  | .issue (.mutate _) => true
  | _ => false

/-- The move does not end the subscription of the observer. -/
def Move.spares (id : Nat) : Move → Bool
  | .issue .teardown => false
  | .issue (.unsubscribe i) => i ≠ id
  | _ => true

/-- The state right after the last mutation that was direct for the observer. -/
def direct? (s : Store) (id : Nat) : List Move → Option AuthState
  | [] => none
  | m :: ms =>
    (direct? (s.move m).1 id ms).or (if m.mutates ∧ ¬ s.Awaits id then some (s.move m).1.snapshot else none)

@[simp] theorem run_nil (s : Store) : s.run [] = s := rfl

@[simp] theorem run_cons (s : Store) (m : Move) (ms : List Move) : s.run (m :: ms) = (s.move m).1.run ms := rfl

theorem lastState_append (id : Nat) (cs ds : List Call) :
    lastState id (cs ++ ds) = (lastState id ds).or (lastState id cs) := by
  induction cs with
  | nil => simp [lastState]
  | cons c cs ih => simp [lastState, ih, Option.or_assoc]

private theorem dueState_eq_none_iff {id : Nat} {rs : List Round} :
    dueState id rs = none ↔ ¬ ∃ r ∈ rs, id ∈ r.waiting := by
  induction rs with
  | nil => simp [dueState]
  | cons r rs ih =>
    simp only [dueState, Option.or_eq_none_iff, ih, List.mem_cons, exists_eq_or_imp, not_or]
    by_cases h : id ∈ r.waiting <;> simp [h]

/-- An observer stays registered as long as nobody ends its subscription. -/
private theorem mem_registry_move {s : Store} {id : Nat} {m : Move} (h : id ∈ s.registry.ids) (hm : m.spares id) :
    id ∈ (s.move m).1.registry.ids := by
  cases m with
  | proceed => simpa [move] using h
  | issue c =>
    cases c with
    | mutate m => simpa [move, issue, apply] using h
    | subscribe => simp [move, issue, Registry.subscribe, h]
    | unsubscribe i =>
      have hne : i ≠ id := by simpa [Move.spares] using hm
      simp [move, issue, Registry.unsubscribe, h, hne.symm]
    | teardown => simp [Move.spares] at hm
    | change c => simpa [move, issue] using h

theorem openRound_of_nil {s : Store} (h : s.registry.ids = []) : s.openRound = (s, none) := by
  unfold openRound
  rw [h]

theorem openRound_of_cons {s : Store} {i : Nat} {rest : List Nat} (h : s.registry.ids = i :: rest) :
    s.openRound = ({ s with rounds := ⟨s.snapshot, i, rest⟩ :: s.rounds }, some ⟨i, s.snapshot⟩) := by
  unfold openRound
  rw [h]

@[simp] theorem snapshot_openRound (s : Store) : s.openRound.1.snapshot = s.snapshot := by
  simp [snapshot]

/-- A new round makes its first call and owes its state to all the other observers. -/
private theorem due_openRound {s : Store} {id : Nat} (h : id ∈ s.registry.ids) :
    (dueState id s.openRound.1.rounds).or (lastState id s.openRound.2.toList) =
      (dueState id s.rounds).or (some s.snapshot) := by
  obtain ⟨i, rest, hids⟩ : ∃ i rest, s.registry.ids = i :: rest := List.exists_cons_of_ne_nil (List.ne_nil_of_mem h)
  rw [openRound_of_cons hids]
  simp only [dueState, lastState, Option.toList_some, Option.none_or, Option.or_assoc]
  congr 1
  rw [hids, List.mem_cons] at h
  by_cases hr : id ∈ rest
  · simp [hr]
  · have hi : i = id := (h.resolve_right hr).symm
    simp [hr, hi]

/-- What a round hands over when it goes on, it no longer owes. -/
private theorem due_proceed (s : Store) (id : Nat) :
    (dueState id s.proceed.1.rounds).or (lastState id s.proceed.2.toList) = dueState id s.rounds := by
  unfold proceed
  split
  · rename_i h; simp [h, dueState, lastState]
  · rename_i r rs h
    rw [h]
    split
    · rename_i hw; simp [dueState, lastState, hw]
    · rename_i i rest hw
      simp only [dueState, lastState, Option.toList_some, Option.none_or, Option.or_assoc, hw]
      congr 1
      by_cases hr : id ∈ rest
      · simp [hr]
      · by_cases hi : i = id
        · simp [hr, hi]
        · simp [hr, hi, Ne.symm hi]

/-- The step of the induction: what is due after a move, or else was delivered by it, is the state of the move if it
is a direct mutation, and else what was due before. -/
private theorem due_move {s : Store} {id : Nat} (m : Move) (h : id ∈ s.registry.ids) :
    (dueState id (s.move m).1.rounds).or (lastState id (s.move m).2.toList) =
      (if m.mutates ∧ ¬ s.Awaits id then some (s.move m).1.snapshot else none).or (dueState id s.rounds) := by
  cases m with
  | proceed =>
    simp only [move, Move.mutates, Bool.false_eq_true, false_and, if_false, Option.none_or]
    exact due_proceed s id
  | issue c =>
    cases c with
    | mutate m =>
      have hd := due_openRound (s := s.apply m) h
      simp only [move, issue, Move.mutates, true_and, snapshot_openRound]
      rw [hd]
      change (dueState id s.rounds).or _ = _
      -- the new round lies on top of the others, so it is over before an older one goes on and speaks last
      by_cases ha : s.Awaits id
      · have hne : dueState id s.rounds ≠ none := fun e => dueState_eq_none_iff.1 e ha
        obtain ⟨state, hs⟩ := Option.ne_none_iff_exists'.1 hne
        simp [ha, hs]
      · have hn : dueState id s.rounds = none := dueState_eq_none_iff.2 ha
        simp [ha, hn]
    | subscribe => simp [move, issue, Move.mutates, lastState]
    | unsubscribe i => simp [move, issue, Move.mutates, lastState]
    | teardown => simp [move, issue, Move.mutates, lastState]
    | change c => simp [move, issue, Move.mutates, lastState]

/-- In the middle of a run, too: what will have been delivered last once all rounds are over is the state of the last
direct mutation still to come, or else what is due already. -/
private theorem lastState_calls_or_due {id : Nat} (ms : List Move) {s : Store} (h : id ∈ s.registry.ids)
    (hm : ∀ m ∈ ms, m.spares id) (he : (s.run ms).rounds = []) :
    lastState id (s.calls ms) = (s.direct? id ms).or (dueState id s.rounds) := by
  induction ms generalizing s with
  | nil =>
    have : s.rounds = [] := he
    simp [calls, lastState, direct?, dueState, this]
  | cons m ms ih =>
    have hs := mem_registry_move h (hm m (by simp))
    have hrest := ih hs (fun n hn => hm n (by simp [hn])) he
    rw [calls, lastState_append, hrest, direct?, Option.or_assoc, due_move m h, Option.or_assoc]

theorem lastState_calls {s : Store} {id : Nat} {ms : List Move} (hs : s.rounds = []) (h : id ∈ s.registry.ids)
    (hm : ∀ m ∈ ms, m.spares id) (he : (s.run ms).rounds = []) :
    lastState id (s.calls ms) = s.direct? id ms := by
  rw [lastState_calls_or_due ms h hm he, hs]
  exact Option.or_none

theorem lastState_calls_eq_snapshot_iff {s : Store} {id : Nat} {ms : List Move} (hs : s.rounds = [])
    (h : id ∈ s.registry.ids) (hm : ∀ m ∈ ms, m.spares id) (he : (s.run ms).rounds = []) :
    lastState id (s.calls ms) = some (s.run ms).snapshot ↔ s.direct? id ms = some (s.run ms).snapshot := by
  rw [lastState_calls hs h hm he]

/-- The second observer signs out when it is told of the session; the first one hears of both. -/
theorem first_observer_up_to_date :
    let s : Store :=
      { storage := .register (.holding "token" (some "tok")), registry := { ids := [0, 1], next := 2 } }
    let ms : List Move :=
      [.issue (.mutate .restore), .proceed, .issue (.mutate .signout), .proceed, .proceed, .proceed]
    s.rounds = [] ∧ 0 ∈ s.registry.ids ∧ (∀ m ∈ ms, m.spares 0) ∧ (s.run ms).rounds = [] ∧
      lastState 0 (s.calls ms) = some (s.run ms).snapshot := by
  intro s ms
  have h1 : s.rounds = [] := rfl
  have h2 : 0 ∈ s.registry.ids := by decide
  have h3 : ∀ m ∈ ms, m.spares 0 := by decide
  have h4 : (s.run ms).rounds = [] := by decide
  exact ⟨h1, h2, h3, h4, (lastState_calls_eq_snapshot_iff h1 h2 h3 h4).2 (by decide)⟩

/-- The first observer signs out when it is told of the session; the second one hears of the session last. -/
theorem left_behind :
    let s : Store :=
      { storage := .register (.holding "token" (some "tok")), registry := { ids := [0, 1], next := 2 } }
    let ms : List Move :=
      [.issue (.mutate .restore), .issue (.mutate .signout), .proceed, .proceed, .proceed, .proceed]
    s.rounds = [] ∧ 1 ∈ s.registry.ids ∧ (∀ m ∈ ms, m.spares 1) ∧ (s.run ms).rounds = [] ∧
      lastState 1 (s.calls ms) = some { authenticated := true } ∧ (s.run ms).snapshot = {} ∧
      (s.run ms).session.token = none := by
  decide

private theorem snapshot_move {s : Store} {m : Move} (h : m.mutates = false) : (s.move m).1.snapshot = s.snapshot := by
  cases m with
  | proceed => simp [move, snapshot]
  | issue c =>
    cases c with
    | mutate m => simp [Move.mutates] at h
    | _ => rfl

theorem snapshot_run {s : Store} {ms : List Move} (h : ∀ m ∈ ms, m.mutates = false) :
    (s.run ms).snapshot = s.snapshot := by
  induction ms generalizing s with
  | nil => rfl
  | cons m ms ih => rw [run_cons, ih (fun n hn => h n (by simp [hn])), snapshot_move (h m (by simp))]

/-- If every mutation is direct for an observer, the last one has left the state that the store shows. -/
private theorem direct?_of_direct {s : Store} {id : Nat} {ms : List Move}
    (h : ∀ pre m post, ms = pre ++ m :: post → m.mutates → ¬ (s.run pre).Awaits id) :
    s.direct? id ms = if ms.any (·.mutates) then some (s.run ms).snapshot else none := by
  induction ms generalizing s with
  | nil => rfl
  | cons m ms ih =>
    have hm : m.mutates → ¬ s.Awaits id := h [] m ms rfl
    have hrest := ih (s := (s.move m).1) fun pre n post e => h (m :: pre) n post (by rw [e]; rfl)
    rw [direct?, hrest, run_cons, List.any_cons]
    -- the last mutation decides, and what comes after it leaves the snapshot alone
    by_cases hany : ms.any (·.mutates)
    · simp [hany]
    · have hnone : ∀ n ∈ ms, n.mutates = false := by simpa using hany
      rw [snapshot_run hnone]
      by_cases hmm : m.mutates
      · simp [hany, hmm, hm hmm]
      · simp [hany, hmm]

theorem lastState_calls_of_direct {s : Store} {id : Nat} {ms : List Move} (hs : s.rounds = [])
    (h : id ∈ s.registry.ids) (hm : ∀ m ∈ ms, m.spares id) (he : (s.run ms).rounds = [])
    (hd : ∀ pre m post, ms = pre ++ m :: post → m.mutates → ¬ (s.run pre).Awaits id)
    (hany : ms.any (·.mutates)) : lastState id (s.calls ms) = some (s.run ms).snapshot := by
  rw [lastState_calls hs h hm he, direct?_of_direct hd, if_pos hany]

end Store

end ConsoleShell
