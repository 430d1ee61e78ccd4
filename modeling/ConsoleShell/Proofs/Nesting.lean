import ConsoleShell.Proofs.ShellSteps
import ConsoleShell.Proofs.Subscriptions

/-!
# Rounds within calls

Observers may do to a session whatever the top level does, from inside a call, so that rounds are opened while others are
under way. The trace of a run shows what happens, who is called, and when a call is over. It is well nested: what an
observer does stands between the beginning and the end of the call, each event with all the calls that its mutation
makes, and these are `Shell.deliveries`: one to each observer that is registered at that moment, in the order of
subscription, with the state right after the mutation.

* `pending_trace`: in the middle of a run, too, the rest of the trace completes the rounds that are open.
* `WellNested.calls_perm`: in a well nested trace, the calls made are the deliveries of its events, none missing and none
  made twice.
* `wellNested_trace`: the trace of a run from the beginning, with who is called and in which order.
-/

namespace ConsoleShell

namespace Shell

/-- The calls that are owed for an event: a mutation is delivered to everybody on the registry, with the state right after
it; nothing else is. -/
def deliveries (s : Shell) (e : Event) : List Call :=
  match s.mutation? e with
  | some _ => s.store.registry.ids.map fun id => ⟨id, (s.step e).1.store.snapshot⟩
  | none => []

def calls (s : Shell) (es : List Event) : List Call := (s.trail es).flatMap fun x => (x.1.step x.2).2.call.toList

/-- The calls owed for all that happens in a run. -/
def owed (s : Shell) (es : List Event) : List Call := (s.trail es).flatMap fun x => x.1.deliveries x.2

inductive Mark
  | happened (s : Shell) (e : Event)
  | called (c : Call)
  | returned

namespace Mark

def call? : Mark → Option Call
  | .called c => some c
  | _ => none

/-- The calls owed for what has happened. -/
def owed : Mark → List Call
  | .happened s e => s.deliveries e
  | _ => []

end Mark

/-- What an event leaves in the trace: itself, or the return of an observer, and the call that follows. Without an open
round, there is nobody to return. -/
def marks (s : Shell) (e : Event) : List Mark :=
  (match e with
    | .move .proceed => if s.store.rounds = [] then [] else [.returned]
    | e => [.happened s e]) ++ (s.step e).2.call.toList.map .called

def trace (s : Shell) (es : List Event) : List Mark := (s.trail es).flatMap fun x => x.1.marks x.2

mutual

/-- What happens at the top level, or inside one call: events, each followed by its deliveries. -/
inductive WellNested : List Mark → Prop
  | nil : WellNested []
  | happened (s : Shell) (e : Event) {visits rest : List Mark} (hv : Delivered (s.deliveries e) visits)
      (hr : WellNested rest) : WellNested (.happened s e :: (visits ++ rest))

/-- The calls are made one after the other, each with what the observer does before it returns. -/
inductive Delivered : List Call → List Mark → Prop
  | nil : Delivered [] []
  | called (c : Call) {cs : List Call} {inside rest : List Mark} (hi : WellNested inside) (hr : Delivered cs rest) :
      Delivered (c :: cs) (.called c :: (inside ++ .returned :: rest))

end

/-- An event that is no mutation and no return opens no round and calls nobody. -/
theorem quiet_step {s : Shell} {e : Event} (h : s.mutation? e = none) (he : e ≠ .move .proceed) :
    (s.step e).1.store.rounds = s.store.rounds ∧ (s.step e).2.call = none := by
  obtain ⟨hstore, hcall⟩ := s.move_step e
  rw [hstore, hcall]
  cases e with
  | move k =>
    cases k with
    | proceed => exact absurd rfl he
    | issue c =>
      cases c with
      | mutate m => simp [mutation?] at h
      | _ => exact ⟨rfl, rfl⟩
  | _ => simp [move?, h]

/-- A mutation opens a round for all that is owed, and makes its first call. -/
theorem mutation_step {s : Shell} {e : Event} {m : Mutation} (h : s.mutation? e = some m) :
    (s.deliveries e = [] ∧ (s.step e).1.store.rounds = s.store.rounds ∧ (s.step e).2.call = none) ∨
    ∃ id rest state, s.deliveries e = ⟨id, state⟩ :: rest.map (⟨·, state⟩) ∧
      (s.step e).1.store.rounds = ⟨state, id, rest⟩ :: s.store.rounds ∧ (s.step e).2.call = some ⟨id, state⟩ := by
  obtain ⟨hstore, hcall⟩ := s.move_step e
  rw [move?_of_mutation? h] at hstore hcall
  simp only [deliveries, h]
  rw [hstore, hcall, Option.elim_some, Option.bind_some]
  cases hids : s.store.registry.ids with
  | nil =>
    left
    have hopen := Store.openRound_of_nil (s := s.store.apply m) hids
    show _ ∧ ((s.store.apply m).openRound).1.rounds = _ ∧ ((s.store.apply m).openRound).2 = none
    rw [hopen]
    exact ⟨rfl, rfl, rfl⟩
  | cons id rest =>
    right
    have hopen := Store.openRound_of_cons (s := s.store.apply m) hids
    simp only [Store.move, Store.issue, hopen]
    exact ⟨id, rest, (s.store.apply m).snapshot, rfl, rfl, rfl⟩

/-- The rest of a trace while rounds are open: for each of them, from the innermost on, what the running observer still
does, its return, and the calls to those who wait; then what happens at the top level. -/
def Pending : List Round → List Mark → Prop
  | [], ms => WellNested ms
  | r :: rs, ms => ∃ inside visits rest, ms = inside ++ .returned :: (visits ++ rest) ∧ WellNested inside ∧
      Delivered (r.waiting.map (⟨·, r.state⟩)) visits ∧ Pending rs rest

/-- The running observer does something more, with all that follows from it. -/
private theorem Pending.happened {rs : List Round} {s : Shell} {e : Event} {visits ms : List Mark}
    (hv : Delivered (s.deliveries e) visits) (h : Pending rs ms) : Pending rs (.happened s e :: (visits ++ ms)) := by
  cases rs with
  | nil => exact WellNested.happened s e hv h
  | cons r rs =>
    obtain ⟨inside, visits', rest, rfl, hi, hd, hrest⟩ := h
    exact ⟨.happened s e :: (visits ++ inside), visits', rest, by simp, WellNested.happened s e hv hi, hd, hrest⟩

private theorem pending_proceed {s : Shell} {ms : List Mark} (h : Pending (s.step (.move .proceed)).1.store.rounds ms) :
    Pending s.store.rounds (s.marks (.move .proceed) ++ ms) := by
  have hrounds : (s.step (.move .proceed)).1.store.rounds = s.store.proceed.1.rounds := rfl
  have hmarks : s.marks (.move .proceed) =
      (if s.store.rounds = [] then [] else [.returned]) ++ s.store.proceed.2.toList.map .called := rfl
  rw [hrounds] at h
  rw [hmarks]
  unfold Store.proceed at h ⊢
  split at h
  · rename_i hr
    rw [hr] at h ⊢
    exact h
  · rename_i r rs hr
    rw [hr]
    split at h
    · -- the round is over
      rename_i hw
      refine ⟨[], [], ms, by simp, .nil, ?_, h⟩
      rw [hw]
      exact .nil
    · rename_i id rest hw
      obtain ⟨inside, visits, ms', rfl, hi, hd, hrest⟩ := h
      refine ⟨[], .called ⟨id, r.state⟩ :: (inside ++ .returned :: visits), ms', by simp, .nil, ?_, hrest⟩
      rw [hw]
      exact .called _ hi hd

private theorem pending_step {s : Shell} {e : Event} {ms : List Mark} (h : Pending (s.step e).1.store.rounds ms) :
    Pending s.store.rounds (s.marks e ++ ms) := by
  by_cases he : e = .move .proceed
  · subst he
    exact pending_proceed h
  · have hmarks : s.marks e = .happened s e :: (s.step e).2.call.toList.map .called := by
      unfold marks
      split
      · exact absurd rfl he
      · rfl
    rw [hmarks]
    have hnone : s.deliveries e = [] ∧ (s.step e).1.store.rounds = s.store.rounds ∧ (s.step e).2.call = none →
        Pending s.store.rounds (.happened s e :: (s.step e).2.call.toList.map .called ++ ms) := by
      rintro ⟨hd, hrounds, hcall⟩
      rw [hrounds] at h
      rw [hcall]
      have hv : Delivered (s.deliveries e) [] := by
        rw [hd]
        exact .nil
      exact h.happened hv
    cases hm : s.mutation? e with
    | none =>
      obtain ⟨hrounds, hcall⟩ := quiet_step hm he
      exact hnone ⟨by simp [deliveries, hm], hrounds, hcall⟩
    | some m =>
      rcases mutation_step hm with hnil | ⟨id, rest, state, hd, hrounds, hcall⟩
      · exact hnone hnil
      · -- the new round comes first; what it leaves of the trace belongs to the rounds below it
        rw [hrounds] at h
        obtain ⟨inside, visits, ms', rfl, hi, hv, hrest⟩ := h
        have hall : Delivered (s.deliveries e) (.called ⟨id, state⟩ :: (inside ++ .returned :: visits)) := by
          rw [hd]
          exact .called _ hi hv
        rw [hcall]
        simpa using hrest.happened hall

theorem pending_trace {s : Shell} {es : List Event} (h : (s.run es).store.rounds = []) :
    Pending s.store.rounds (s.trace es) := by
  induction es generalizing s with
  | nil =>
    have hs : s.store.rounds = [] := h
    rw [hs]
    exact .nil
  | cons e es ih => exact pending_step (ih h)

/-! ### Calls and deliveries -/

private theorem filterMap_call?_marks (s : Shell) (e : Event) :
    (s.marks e).filterMap Mark.call? = (s.step e).2.call.toList := by
  have hcall : (((s.step e).2.call.toList).map Mark.called).filterMap Mark.call? = (s.step e).2.call.toList := by
    rw [List.filterMap_map]
    exact List.filterMap_some
  unfold marks
  rw [List.filterMap_append, hcall]
  split
  · split <;> rfl
  · rfl

private theorem flatMap_owed_marks (s : Shell) (e : Event) : (s.marks e).flatMap Mark.owed = s.deliveries e := by
  have hcall : (((s.step e).2.call.toList).map Mark.called).flatMap Mark.owed = [] := by
    cases (s.step e).2.call <;> rfl
  unfold marks
  rw [List.flatMap_append, hcall, List.append_nil]
  split
  · split <;> rfl
  · exact List.append_nil _

private theorem filterMap_call?_trace (s : Shell) (es : List Event) :
    (s.trace es).filterMap Mark.call? = s.calls es := by
  simp only [trace, calls, List.filterMap_flatMap, filterMap_call?_marks]

private theorem flatMap_owed_trace (s : Shell) (es : List Event) : (s.trace es).flatMap Mark.owed = s.owed es := by
  simp only [trace, owed, List.flatMap_assoc, flatMap_owed_marks]

mutual

theorem WellNested.calls_perm : ∀ {ms : List Mark}, WellNested ms →
    (ms.filterMap Mark.call?).Perm (ms.flatMap Mark.owed)
  | _, .nil => .nil
  | _, .happened s e hv hr => by
    have h1 := hv.calls_perm
    have h2 := hr.calls_perm
    simp only [List.filterMap_cons, Mark.call?, List.filterMap_append, List.flatMap_cons, Mark.owed,
      List.flatMap_append]
    rw [← List.append_assoc]
    exact h1.append h2

private theorem Delivered.calls_perm : ∀ {cs : List Call} {ms : List Mark}, Delivered cs ms →
    (ms.filterMap Mark.call?).Perm (cs ++ ms.flatMap Mark.owed)
  | _, _, .nil => .nil
  | _, _, .called c hi hr => by
    have h1 := hi.calls_perm
    have h2 := hr.calls_perm
    simp only [List.filterMap_cons, Mark.call?, List.filterMap_append, List.flatMap_cons, Mark.owed,
      List.flatMap_append, List.nil_append, List.cons_append]
    refine .cons c ((h1.append h2).trans ?_)
    exact List.perm_append_comm_assoc _ _ _

end

private theorem ascending_step (s : Shell) (e : Event) (h : s.store.registry.Ascending) :
    (s.step e).1.store.registry.Ascending := by
  rw [(s.move_step e).1]
  cases s.move? e with
  | none => exact h
  | some m => exact Store.ascending_move h m

private theorem next_le_step (s : Shell) (e : Event) : s.store.registry.next ≤ (s.step e).1.store.registry.next := by
  rw [(s.move_step e).1]
  cases s.move? e with
  | none => exact Nat.le_refl _
  | some m => exact s.store.next_le_move m

/-- Whoever a mutation is delivered to is on the registry. -/
private theorem mem_registry_of_mem_deliveries {s : Shell} {e : Event} {c : Call} (h : c ∈ s.deliveries e) :
    c.observer ∈ s.store.registry.ids := by
  unfold deliveries at h
  split at h
  · obtain ⟨id, hid, rfl⟩ := List.mem_map.1 h
    exact hid
  · simp at h

private theorem deliveries_ascending {s : Shell} (h : s.store.registry.Ascending) (e : Event) :
    (s.deliveries e).Pairwise (·.observer < ·.observer) := by
  unfold deliveries
  split
  · exact List.pairwise_map.2 h.ids
  · exact List.Pairwise.nil

/-- An observer that subscribes later is none of those that a mutation is delivered to. -/
private theorem deliveries_pairwise {s : Shell} (h : s.store.registry.Ascending) (es : List Event) :
    (s.trail es).Pairwise fun x y => ∀ c ∈ x.1.deliveries x.2, c.observer < y.1.store.registry.next := by
  induction es generalizing s with
  | nil => exact List.Pairwise.nil
  | cons e es ih =>
    refine List.pairwise_cons.2 ⟨?_, ih (s.ascending_step e h)⟩
    intro y hy c hc
    have hlt : c.observer < (s.step e).1.store.registry.next :=
      Nat.lt_of_lt_of_le (h.next _ (mem_registry_of_mem_deliveries hc)) (s.next_le_step e)
    exact kept_trail (P := fun t => c.observer < t.store.registry.next)
      (fun t d ht => Nat.lt_of_lt_of_le ht (t.next_le_step d)) hlt hy

/-- The trace of a run that is over is well nested: all calls for a mutation stand right after it, each with what follows
from it, and a mutation within a call has all its calls there. No call is missing, made twice, or made for anything else;
each goes to an observer of its own, in the order of subscription, and none to somebody who has subscribed later. -/
theorem wellNested_trace {storage : Storage} {endpoints : Endpoints} {es : List Event}
    (h : ((new storage endpoints).run es).store.rounds = []) :
    let s := new storage endpoints
    WellNested (s.trace es) ∧ (s.calls es).Perm (s.owed es) ∧
      (∀ x ∈ s.trail es, (x.1.deliveries x.2).Pairwise (·.observer < ·.observer)) ∧
      (s.trail es).Pairwise fun x y => ∀ c ∈ x.1.deliveries x.2, c.observer < y.1.store.registry.next := by
  intro s
  have hasc : s.store.registry.Ascending := Store.ascending_new storage
  have hnested : WellNested (s.trace es) := pending_trace h
  refine ⟨hnested, ?_, ?_, deliveries_pairwise hasc es⟩
  · rw [← filterMap_call?_trace, ← flatMap_owed_trace]
    exact hnested.calls_perm
  · intro x hx
    exact deliveries_ascending (kept_trail ascending_step hasc hx) x.2

/-- The first observer signs in when it is told of the attempt, and then lets a third one subscribe: the second observer
hears of the login before it hears of the attempt, and the third one of neither. -/
theorem login_within_call :
    let s := new (.register { key := "token" }) ⟨"/query", "/login"⟩
    let es : List Event :=
      [.move (.issue .subscribe), .move (.issue .subscribe), .move (.issue (.mutate .beginAttempt)),
        .move (.issue (.mutate (.login "t" ⟨"a"⟩))), .move .proceed, .move .proceed, .move (.issue .subscribe),
        .move .proceed, .move .proceed]
    let attempt : AuthState := { authenticating := true }
    let login : AuthState := { authenticated := true, profile := some ⟨"a"⟩ }
    (s.run es).store.rounds = [] ∧ (s.run es).store.registry.ids = [0, 1, 2] ∧ WellNested (s.trace es) ∧
      s.calls es = [⟨0, attempt⟩, ⟨0, login⟩, ⟨1, login⟩, ⟨1, attempt⟩] ∧
      s.owed es = [⟨0, attempt⟩, ⟨1, attempt⟩, ⟨0, login⟩, ⟨1, login⟩] := by
  intro s es attempt login
  have h : (s.run es).store.rounds = [] := by decide
  exact ⟨h, by decide, (wellNested_trace h).1, by decide, by decide⟩

end Shell

end ConsoleShell
