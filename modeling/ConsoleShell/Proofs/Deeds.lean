import ConsoleShell.Observer.Watched
import ConsoleShell.Proofs.ObservedRuns
import Mathlib.Data.List.Basic

/-!
# What happens around a shell with observers

A shell with observers moves by *deeds*: the observer called last goes on, whoever is running takes a step or starts a
job, a reply comes in, a signal is attached or disposed of. Nothing is said about who takes a step when, so observers of
any kind are covered, scripted or not, in the middle of their calls too.

* `store_run`: a run of deeds makes a run of moves in the store.
* `signal?_run`: a signal shows the state that was delivered to it last.
* `Numbered.run`: observers are numbered in the order of subscription, and only observers with a number wait for a call.
* `perform_eq_run`, `start_eq_run`, `reply_eq_run`: what the top level does, with all that follows, is a run of deeds.
-/

namespace ConsoleShell

namespace Observer

/-- The state that the observer shows, if it is a signal that has not been disposed of. -/
def shown? : Observer → Option AuthState
  | .signal state true => some state
  | _ => none

private theorem shown?_take (state : AuthState) (o : Observer) :
    (o.take state).1.shown? = o.shown?.map fun _ => state := by
  cases o with
  | script label trigger times steps =>
    rw [take]
    split <;> rfl
  | signal shown live => cases live <;> rfl

end Observer

namespace Store

/-- The numbers in use, on the registry or waiting for a call, are smaller than the next one. -/
structure Numbered (s : Store) : Prop where
  registry : s.registry.Ascending
  waiting : ∀ r ∈ s.rounds, ∀ id ∈ r.waiting, id < s.registry.next

private theorem Numbered.move {s : Store} (h : s.Numbered) (m : Move) : (s.move m).1.Numbered where
  registry := ascending_move h.registry m
  waiting := by
    cases m with
    | proceed =>
      rw [Store.move, registry_proceed]
      unfold proceed
      split
      · rename_i hr
        simp [hr]
      · rename_i r rs hr
        have hold := h.waiting
        rw [hr] at hold
        split
        · exact fun q hq => hold q (List.mem_cons_of_mem _ hq)
        · rename_i id rest hw
          intro q hq i hi
          rcases List.mem_cons.1 hq with rfl | hq
          · exact hold r List.mem_cons_self i (by rw [hw]; exact List.mem_cons_of_mem _ hi)
          · exact hold q (List.mem_cons_of_mem _ hq) i hi
    | issue c =>
      cases c with
      | mutate m =>
        rw [Store.move, issue, registry_openRound]
        cases hids : s.registry.ids with
        | nil =>
          have hopen := openRound_of_nil (s := s.apply m) hids
          rw [hopen]
          exact h.waiting
        | cons id rest =>
          have hopen := openRound_of_cons (s := s.apply m) hids
          rw [hopen]
          intro q hq i hi
          rcases List.mem_cons.1 hq with rfl | hq
          · exact h.registry.next i (by rw [hids]; exact List.mem_cons_of_mem _ hi)
          · exact h.waiting q hq i hi
      | subscribe => exact fun r hr id hid => Nat.lt_succ_of_lt (h.waiting r hr id hid)
      | unsubscribe i => exact h.waiting
      | teardown => exact h.waiting
      | change c => exact h.waiting

/-- A mutation leaves the registry alone. -/
private theorem registry_of_mutation? (s : Store) (m : Option Mutation) :
    ((m.map fun m => Move.issue (.mutate m)).elim s fun m => (s.move m).1).registry = s.registry := by
  cases m with
  | none => rfl
  | some m => simp [move, issue, apply]

end Store

namespace Watched

inductive Deed
  /-- The observer called last goes on by one. -/
  | advance
  /-- Whoever is running takes a step. -/
  | step (s : Step)
  | start (label : String) (job : Job)
  | reply (label : String) (r : Reply)
  | drop (label : String)
  | attachSignal
  | silence (id : Nat)
  /-- Subscriptions to another store have taken over labels. -/
  | relabel (labels : List (String × Nat))

/-- The shell after a deed, in the observer that is called, if any. -/
def deed (w : Watched) : Deed → Watched
  | .advance => w.advance.getD w
  | .step s => (w.act s).1.enter (w.act s).2.2
  | .start label job => enter { w with shell := (w.shell.start label job).1 } (w.shell.start label job).2.call
  | .reply label r => enter { w with shell := (w.shell.reply label r).1 } (w.shell.reply label r).2.call
  | .drop label => w.drop label
  | .attachSignal => w.attachSignal
  | .silence id => w.silence id
  | .relabel labels => { w with labels := labels }

def run (w : Watched) (ds : List Deed) : Watched := ds.foldl deed w

def move? (w : Watched) : Deed → Option Store.Move
  | .advance => if w.store.rounds = [] then none else w.turn.bind w.shell.move?
  | .step s => (w.command? s).map .issue
  | .start label job => w.shell.move? (.start label job)
  | .reply label r => w.shell.move? (.reply label r)
  | .attachSignal => some (.issue .subscribe)
  | .drop _ | .silence _ | .relabel _ => none

def call? (w : Watched) (d : Deed) : Option Call := (w.move? d).bind fun m => (w.store.move m).2

def moves (w : Watched) : List Deed → List Store.Move
  | [] => []
  | d :: ds => (w.move? d).toList ++ (w.deed d).moves ds

@[simp] theorem run_nil (w : Watched) : w.run [] = w := rfl

@[simp] theorem run_cons (w : Watched) (d : Deed) (ds : List Deed) : w.run (d :: ds) = (w.deed d).run ds := rfl

private theorem signal?_eq (w : Watched) (id : Nat) : w.signal? id = w.observers[id]?.bind Observer.shown? := by
  unfold signal?
  cases w.observers[id]? with
  | none => rfl
  | some o =>
    cases o with
    | script label trigger times steps => rfl
    | signal state live => cases live <;> rfl

private theorem observers_enter (w : Watched) (c : Call) :
    (w.enter (some c)).observers = w.observers.modify c.observer fun o => (o.take c.state).1 := by
  unfold enter
  dsimp only
  split
  · rename_i h
    rw [List.modify_eq_set_getElem?, h]
    rfl
  · rename_i o h
    rw [List.modify_eq_set_getElem?, h]
    rfl

private theorem length_observers_enter (w : Watched) (c : Option Call) :
    (w.enter c).observers.length = w.observers.length := by
  cases c with
  | none => rfl
  | some c => rw [observers_enter, List.length_modify]

/-- The signal that is called takes the state over, and the others stay. -/
private theorem signal?_enter (w : Watched) (c : Option Call) (id : Nat) :
    (w.enter c).signal? id = (w.signal? id).map fun state => (lastState id c.toList).getD state := by
  cases c with
  | none => cases hs : w.signal? id <;> simp [enter, hs, lastState]
  | some c =>
    rw [signal?_eq, signal?_eq, observers_enter, List.getElem?_modify]
    cases w.observers[id]? with
    | none => rfl
    | some o =>
      by_cases hc : c.observer = id
      · simp [hc, lastState, Observer.shown?_take]
      · simp [hc, lastState]

theorem signal?_silence (w : Watched) (id : Nat) : (w.silence id).signal? id = none := by
  rw [signal?_eq, silence]
  simp only [List.getElem?_modify, if_true]
  cases w.observers[id]? with
  | none => rfl
  | some o => cases o <;> rfl

private theorem store_act (w : Watched) (s : Step) :
    (w.act s).1.store = (w.command? s).elim w.store fun c => (w.store.issue c).1 := by
  cases s with
  | unsubscribe label =>
    simp only [act, command?]
    cases w.labels.lookup label <;> rfl
  | _ => rfl

private theorem call_act (w : Watched) (s : Step) :
    (w.act s).2.2 = (w.command? s).bind fun c => (w.store.issue c).2 := by
  cases s with
  | unsubscribe label =>
    simp only [act, command?]
    cases w.labels.lookup label <;> rfl
  | _ => rfl

def newcomers : Step → List Observer
  | .subscribe label reaction => [.ofReaction label reaction]
  | _ => []

private theorem observers_act (w : Watched) (s : Step) : (w.act s).1.observers = w.observers ++ newcomers s := by
  cases s with
  | subscribe label reaction => rfl
  | unsubscribe label =>
    simp only [act, newcomers, List.append_nil]
    cases w.labels.lookup label <;> rfl
  | _ => simp [act, command, newcomers]

private theorem next_act (w : Watched) (s : Step) :
    (w.act s).1.store.registry.next = w.store.registry.next + (newcomers s).length := by
  rw [store_act]
  cases s with
  | mutate m => simp [command?, Store.issue, Store.apply, newcomers]
  | unsubscribe label =>
    simp only [command?]
    cases w.labels.lookup label <;> rfl
  | _ => rfl

/-- What the observer called last does when it goes on: it returns, takes a step of its script, or reports its last one. -/
private theorem cases_of_advance {w w' : Watched} (h : w.advance = some w') :
    (∃ fs, w.turn = some (.move .proceed) ∧
      w' = enter { w with shell := w.shell.proceed.1, frames := fs } w.shell.proceed.2) ∨
    (∃ s fs, w.turn = w.event? s ∧ w' = enter { (w.act s).1 with frames := fs } (w.act s).2.2) ∨
    ∃ fs es, w.turn = none ∧ w' = { w with frames := fs, events := es } := by
  unfold advance at h
  unfold turn
  split at h
  · simp at h
  · cases hf : w.frames with
    | nil =>
      simp only [hf, Option.some.injEq] at h
      exact .inl ⟨[], rfl, by rw [← h, ← hf]⟩
    | cons f fs =>
      simp only [hf] at h
      split at h
      · rename_i taken answer ht
        simp only [Option.some.injEq] at h
        exact .inr (.inr ⟨_, _, by simp [ht], h.symm⟩)
      · rename_i s rest ht hrest
        simp only [Option.some.injEq] at h
        exact .inr (.inl ⟨s, _, by simp [ht, hrest], h.symm⟩)
      · rename_i ht hrest
        simp only [Option.some.injEq] at h
        exact .inl ⟨fs, by simp [ht, hrest], h.symm⟩

private theorem advance_eq_none_iff (w : Watched) : w.advance = none ↔ w.store.rounds = [] := by
  unfold advance
  split
  · simp_all
  · rename_i hr
    simp only [hr, reduceCtorEq, iff_false]
    split
    · simp
    · split <;> simp

/-! ### One deed -/

/-- `v` is what a deed makes of `w` before anybody is called. -/
structure Prepared (w : Watched) (d : Deed) (v : Watched) : Prop where
  /-- The store has made the move of the deed. -/
  store : v.store = (w.move? d).elim w.store fun m => (w.store.move m).1
  /-- No signal has changed. -/
  signal? : ∀ id < w.observers.length, d ≠ .silence id → v.signal? id = w.signal? id
  /-- Every number handed out has its observer. -/
  numbers : v.observers.length + w.store.registry.next = w.observers.length + v.store.registry.next

private theorem prepared_act {w : Watched} {d : Deed} {s : Step} (hd : w.move? d = (w.command? s).map .issue)
    (fs : List Frame) : w.Prepared d { (w.act s).1 with frames := fs } where
  store := by
    rw [hd]
    refine (store_act w s).trans ?_
    cases w.command? s <;> rfl
  signal? := by
    intro id hid _
    have hkeep : (w.observers ++ newcomers s)[id]? = w.observers[id]? := List.getElem?_append_left hid
    rw [signal?_eq, signal?_eq, ← hkeep, ← observers_act]
  numbers := by
    have hlength : (w.act s).1.observers.length = w.observers.length + (newcomers s).length := by
      rw [observers_act, List.length_append]
    have hnext := next_act w s
    show (w.act s).1.observers.length + _ = _ + (w.act s).1.store.registry.next
    omega

/-- A job or a reply may carry out a mutation, and so leaves the registry alone. -/
private theorem prepared_task {w : Watched} {d : Deed} {e : Shell.Event} (hd : w.move? d = w.shell.move? e)
    (he : ∀ m, e ≠ .move m) : w.Prepared d { w with shell := (w.shell.step e).1 } where
  store := by
    rw [hd]
    exact (w.shell.move_step e).1
  signal? := fun _ _ _ => rfl
  numbers := by
    have hm : w.shell.move? e = (w.shell.mutation? e).map fun m => .issue (.mutate m) := by
      cases e with
      | move m => exact absurd rfl (he m)
      | _ => rfl
    have hregistry : (w.shell.step e).1.store.registry = w.shell.store.registry := by
      rw [(w.shell.move_step e).1, hm, Store.registry_of_mutation?]
    show w.observers.length + w.shell.store.registry.next = w.observers.length + (w.shell.step e).1.store.registry.next
    rw [hregistry]

private theorem prepared_of_no_move {w v : Watched} {d : Deed} (hd : w.move? d = none) (hs : v.store = w.store)
    (ho : v.observers = w.observers) : w.Prepared d v where
  store := by
    rw [hd]
    exact hs
  signal? := by
    intro id _ _
    rw [signal?_eq, signal?_eq, ho]
  numbers := by rw [hs, ho]

private theorem advance_eq_enter (w : Watched) :
    ∃ v, w.Prepared .advance v ∧ w.deed .advance = v.enter (w.call? .advance) := by
  cases ha : w.advance with
  | none =>
    have hm : w.move? .advance = none := if_pos (w.advance_eq_none_iff.1 ha)
    refine ⟨w, prepared_of_no_move hm rfl rfl, ?_⟩
    rw [deed, ha, call?, hm]
    rfl
  | some w' =>
    have hrounds : w.store.rounds ≠ [] := by
      intro h
      rw [w.advance_eq_none_iff.2 h] at ha
      cases ha
    have hm : w.move? .advance = w.turn.bind w.shell.move? := if_neg hrounds
    have hdeed : w.deed .advance = w' := by rw [deed, ha, Option.getD_some]
    rw [hdeed, call?]
    rcases cases_of_advance ha with ⟨fs, hturn, rfl⟩ | ⟨s, fs, hturn, rfl⟩ | ⟨fs, es, hturn, rfl⟩
    · have hproceed : w.move? .advance = some .proceed := by
        rw [hm, hturn]
        rfl
      rw [hproceed]
      refine ⟨{ w with shell := w.shell.proceed.1, frames := fs }, ?_, rfl⟩
      refine ⟨by rw [hproceed]; rfl, fun _ _ _ => rfl, ?_⟩
      show _ = w.observers.length + w.store.proceed.1.registry.next
      rw [Store.registry_proceed]
    · have hs : w.move? .advance = (w.command? s).map .issue := by
        rw [hm, hturn, event?]
        cases w.command? s <;> rfl
      refine ⟨_, prepared_act hs fs, ?_⟩
      rw [call_act, hs]
      cases w.command? s <;> rfl
    · have hnone : w.move? .advance = none := by
        rw [hm, hturn]
        rfl
      rw [hnone]
      exact ⟨{ w with frames := fs, events := es }, prepared_of_no_move hnone rfl rfl, rfl⟩

/-- Every deed makes its move, and then enters the observer that the move calls. -/
private theorem deed_eq_enter (w : Watched) (d : Deed) : ∃ v, w.Prepared d v ∧ w.deed d = v.enter (w.call? d) := by
  cases d with
  | advance => exact w.advance_eq_enter
  | step s =>
    refine ⟨(w.act s).1, prepared_act rfl (w.act s).1.frames, ?_⟩
    rw [deed, call_act, call?, move?]
    cases w.command? s <;> rfl
  | start label job =>
    refine ⟨_, prepared_task (e := .start label job) rfl (by simp), ?_⟩
    rw [deed, call?, move?]
    exact congrArg _ (w.shell.move_step (.start label job)).2
  | reply label r =>
    refine ⟨_, prepared_task (e := .reply label r) rfl (by simp), ?_⟩
    rw [deed, call?, move?]
    exact congrArg _ (w.shell.move_step (.reply label r)).2
  | drop label => exact ⟨w.drop label, prepared_of_no_move rfl rfl rfl, rfl⟩
  | attachSignal =>
    refine ⟨w.attachSignal, ⟨rfl, ?_, ?_⟩, rfl⟩
    · intro id hid _
      have hkeep : (w.attachSignal.observers)[id]? = w.observers[id]? := List.getElem?_append_left hid
      rw [signal?_eq, signal?_eq, hkeep]
    · show (w.observers ++ [_]).length + _ = _ + (w.store.registry.next + 1)
      rw [List.length_append, List.length_singleton]
      omega
  | silence id =>
    refine ⟨w.silence id, ⟨rfl, ?_, ?_⟩, rfl⟩
    · intro i _ hne
      have hi : id ≠ i := fun h => hne (by rw [h])
      have hkeep : (w.silence id).observers[i]? = w.observers[i]? := List.getElem?_modify_ne _ _ hi
      rw [signal?_eq, signal?_eq, hkeep]
    · rw [silence, List.length_modify]
      rfl
  | relabel labels => exact ⟨{ w with labels := labels }, prepared_of_no_move rfl rfl rfl, rfl⟩

private theorem store_deed (w : Watched) (d : Deed) :
    (w.deed d).store = (w.move? d).elim w.store fun m => (w.store.move m).1 := by
  obtain ⟨v, hv, hd⟩ := w.deed_eq_enter d
  rw [hd, ← hv.store, store, shell_enter, store]

private theorem length_deed (w : Watched) (d : Deed) :
    (w.deed d).observers.length + w.store.registry.next = w.observers.length + (w.deed d).store.registry.next := by
  obtain ⟨v, hv, hd⟩ := w.deed_eq_enter d
  rw [store_deed, ← hv.store, ← hv.numbers, hd, length_observers_enter]

private theorem signal?_deed {w : Watched} {id : Nat} {d : Deed}
    (hid : id < w.observers.length) (hd : d ≠ .silence id) :
    (w.deed d).signal? id = (w.signal? id).map fun state => (lastState id (w.call? d).toList).getD state := by
  obtain ⟨v, hv, he⟩ := w.deed_eq_enter d
  rw [he, signal?_enter, hv.signal? id hid hd]

/-- The observers are those that were ever subscribed, by their numbers. -/
structure Numbered (w : Watched) : Prop where
  length : w.observers.length = w.store.registry.next
  store : w.store.Numbered

private theorem Numbered.deed {w : Watched} (h : w.Numbered) (d : Deed) : (w.deed d).Numbered where
  length := by
    have hlength := w.length_deed d
    have := h.length
    omega
  store := by
    rw [store_deed]
    cases w.move? d with
    | none => exact h.store
    | some m => exact h.store.move m

theorem Numbered.run {w : Watched} (h : w.Numbered) (ds : List Deed) : (w.run ds).Numbered := by
  induction ds generalizing w with
  | nil => exact h
  | cons d ds ih => exact ih (h.deed d)

private theorem length_observers_le_deed (w : Watched) (d : Deed) :
    w.observers.length ≤ (w.deed d).observers.length := by
  have hlength := w.length_deed d
  have hnext : w.store.registry.next ≤ (w.deed d).store.registry.next := by
    rw [store_deed]
    cases w.move? d with
    | none => exact Nat.le_refl _
    | some m => exact w.store.next_le_move m
  omega

theorem store_run (w : Watched) (ds : List Deed) : (w.run ds).store = w.store.run (w.moves ds) := by
  induction ds generalizing w with
  | nil => rfl
  | cons d ds ih =>
    rw [run_cons, ih, moves, Store.run_append, store_deed]
    cases w.move? d <;> rfl

/-- The call of a deed comes before the calls of the deeds after it. -/
private theorem calls_moves_cons (w : Watched) (d : Deed) (ds : List Deed) :
    w.store.calls (w.moves (d :: ds)) = (w.call? d).toList ++ (w.deed d).store.calls ((w.deed d).moves ds) := by
  rw [moves, store_deed, call?]
  cases w.move? d <;> rfl

/-- A signal shows the state that was delivered to it last. -/
theorem signal?_run {w : Watched} {id : Nat} {ds : List Deed} (hid : id < w.observers.length)
    (hds : Deed.silence id ∉ ds) : (w.run ds).signal? id =
      (w.signal? id).map fun state => (lastState id (w.store.calls (w.moves ds))).getD state := by
  induction ds generalizing w with
  | nil => cases h : w.signal? id <;> simp [h, moves, Store.calls, lastState]
  | cons d ds ih =>
    rw [List.mem_cons, not_or] at hds
    have hlength : id < (w.deed d).observers.length := Nat.lt_of_lt_of_le hid (w.length_observers_le_deed d)
    rw [run_cons, ih hlength hds.2, signal?_deed hid (Ne.symm hds.1), calls_moves_cons, Option.map_map]
    simp only [Store.lastState_append, Option.getD_or]
    rfl

/-! ### What the top level does -/

private theorem settle_eq_run (w : Watched) : ∃ n, w.settle = w.run (List.replicate n .advance) := by
  induction w using settle.induct with
  | case1 w h => exact ⟨0, by rw [settle, h]; rfl⟩
  | case2 w w' h ih =>
    obtain ⟨n, hn⟩ := ih
    have hdeed : w.deed .advance = w' := by rw [deed, h, Option.getD_some]
    refine ⟨n + 1, ?_⟩
    rw [settle, h, List.replicate_succ, run_cons, hdeed]
    exact hn

theorem perform_eq_run (w : Watched) (s : Step) :
    ∃ n, (w.perform s).1 = w.run (.step s :: List.replicate n .advance) := (w.deed (.step s)).settle_eq_run

theorem start_eq_run (w : Watched) (label : String) (job : Job) :
    ∃ n, (w.start label job).1 = w.run (.start label job :: List.replicate n .advance) :=
  (w.deed (.start label job)).settle_eq_run

theorem reply_eq_run (w : Watched) (label : String) (r : Reply) :
    ∃ n, (w.reply label r).1 = w.run (.reply label r :: List.replicate n .advance) :=
  (w.deed (.reply label r)).settle_eq_run

end Watched

end ConsoleShell
