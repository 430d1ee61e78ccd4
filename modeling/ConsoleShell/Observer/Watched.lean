import ConsoleShell.Observer.Script
import ConsoleShell.Session.Describe
import ConsoleShell.Shell

/-!
# A shell with its observers

A `Watched` shell knows what its observers do. Each round of the store has a frame: the steps that the observer
called last still has to take. `settle` lets the observers go on until no round is open, and every delivery and
every step of an observer leaves an event. Each delivery that is answered and each step uses up some of the
bounded reactions, so `settle` comes to an end.

A signal shows the state of a session: it starts with the state at the moment it is attached and follows every
delivery. Once silenced it shows nothing, while its observer stays subscribed and does nothing.
-/

namespace ConsoleShell

/-- Where an observer stands that is being called. -/
structure Frame where
  label : String := ""
  /-- The step taken last, whose answer is reported once its round is over. -/
  taken : Option (Step × Answer) := none
  rest : List Step := []

inductive Event
  /-- An observer was called with a state, at a moment when the session held `token`. -/
  | delivered (label : String) (state : AuthState) (token : Option String)
  /-- An observer has taken a step. -/
  | did (label : String) (step : Step) (answer : Answer)

structure Watched where
  shell : Shell
  /-- Every observer ever subscribed, by its number. -/
  observers : List Observer := []
  /-- The number of the latest subscription under each label. -/
  labels : List (String × Nat) := []
  /-- The observers being called, the innermost first. -/
  frames : List Frame := []
  events : List Event := []

namespace Watched

def store (w : Watched) : Store := w.shell.store

def enter (w : Watched) : Option Call → Watched
  | none => w
  | some c =>
    match w.observers[c.observer]? with
    | none => { w with frames := {} :: w.frames }
    | some o =>
      let (next, steps) := o.take c.state
      let told := match o with
        | .script label .. => [Event.delivered label c.state w.store.session.token]
        | .signal .. => []
      let label := match o with
        | .script label .. => label
        | .signal .. => ""
      { w with
        observers := w.observers.set c.observer next
        frames := { label := label, rest := steps } :: w.frames
        events := w.events ++ told }

/-- Gives a command to the store; its first call is not entered yet. -/
def command (w : Watched) (c : Command) : Watched × Option Call :=
  ({ w with shell := (w.shell.issue c).1 }, (w.shell.issue c).2)

def subscribe (w : Watched) (o : Observer) : Watched :=
  { (w.command .subscribe).1 with observers := w.observers ++ [o] }

/-- What a step comes to: the shell afterwards, the answer, and the observer it calls. -/
def act (w : Watched) : Step → Watched × Answer × Option Call
  | .mutate m =>
    let (w', call) := w.command (.mutate m)
    (w', (w.store.storage.report m).elim .nothing .storage, call)
  | .teardown => ((w.command .teardown).1, .nothing, none)
  | .change c =>
    let answer := match c with
      | .save _ | .remove => .storage (w.store.storage.outcome c)
      | .clear _ | .setReadOnly _ => .nothing
    ((w.command (.change c)).1, answer, none)
  | .get key => (w, .text (w.store.storage.get? key), none)
  | .guard view => (w, .flag (shouldRedirect view w.store.snapshot), none)
  | .describe => (w, .words w.store.describe, none)
  | .pause => (w, .nothing, none)
  | .subscribe label reaction =>
    ({ w.subscribe (.ofReaction label reaction) with
        labels := (label, w.store.registry.next) :: w.labels }, .nothing, none)
  | .unsubscribe label =>
    match w.labels.lookup label with
    | none => (w, .unknownLabel, none)
    | some id => ((w.command (.unsubscribe id)).1, .flag (w.store.registry.contains id), none)

/-- Lets the innermost observer go on by one: it reports its last step, takes the next one, or returns. Nothing is
left to do when no round is open. -/
def advance (w : Watched) : Option Watched :=
  match w.store.rounds with
  | [] => none
  | _ :: _ =>
    match w.frames with
    | [] =>
      let (shell, call) := w.shell.proceed
      some ({ w with shell := shell }.enter call)
    | f :: fs =>
      match f.taken, f.rest with
      | some (step, answer), _ =>
        some { w with frames := { f with taken := none } :: fs, events := w.events ++ [.did f.label step answer] }
      | none, step :: rest =>
        let (w', answer, call) := w.act step
        some ({ w' with frames := { f with taken := some (step, answer), rest := rest } :: fs }.enter call)
      | none, [] =>
        let (shell, call) := w.shell.proceed
        some ({ w with shell := shell, frames := fs }.enter call)

def observersCost : List Observer → Nat
  | [] => 0
  | o :: os => o.cost + observersCost os

def framesCost : List Frame → Nat
  | [] => 0
  | f :: fs => stepsCost f.rest + framesCost fs

/-- The deliveries and steps that may still come from reactions. -/
def work (w : Watched) : Nat := observersCost w.observers + framesCost w.frames

def roundsCost : List Round → Nat
  | [] => 0
  | r :: rs => r.waiting.length + 1 + roundsCost rs

/-- The calls still due and the reports still owed. -/
def owed (w : Watched) : Nat :=
  2 * roundsCost w.store.rounds + w.frames.countP (·.taken.isSome)

private theorem observersCost_set (next : Observer) {os : List Observer} {i : Nat} {o : Observer}
    (h : os[i]? = some o) : observersCost (os.set i next) + o.cost = observersCost os + next.cost := by
  induction os generalizing i with
  | nil => simp at h
  | cons p os ih =>
    cases i with
    | zero =>
      simp only [List.getElem?_cons_zero, Option.some.injEq] at h
      subst h
      simp only [observersCost, List.set_cons_zero]
      omega
    | succ i =>
      simp only [List.getElem?_cons_succ] at h
      have := ih h
      simp only [observersCost, List.set_cons_succ] at this ⊢
      omega

private theorem observersCost_concat (os : List Observer) (o : Observer) :
    observersCost (os ++ [o]) = observersCost os + o.cost := by
  induction os with
  | nil => simp [observersCost]
  | cons p os ih =>
    simp only [List.cons_append, observersCost, ih]
    omega

private theorem work_enter_le (w : Watched) (c : Option Call) : (w.enter c).work ≤ w.work := by
  cases c with
  | none => exact Nat.le_refl _
  | some c =>
    unfold enter
    dsimp only
    split
    · simp [work, framesCost, stepsCost]
    · rename_i o h
      have h1 := observersCost_set (o.take c.state).1 h
      have h2 := o.cost_take_le c.state
      simp only [work, framesCost]
      omega

private theorem owed_enter (w : Watched) (c : Option Call) : (w.enter c).owed = w.owed := by
  unfold enter
  split
  · rfl
  · split <;> simp [owed, store]

private theorem observersCost_act (w : Watched) (s : Step) :
    observersCost (w.act s).1.observers < observersCost w.observers + s.cost := by
  have hs := s.cost_pos
  cases s with
  | subscribe label reaction =>
    have h := Observer.cost_ofReaction label reaction
    simp only [act, subscribe, observersCost_concat]
    omega
  | unsubscribe label =>
    simp only [act]
    split <;> simp [command, hs]
  | _ => simp [act, command, hs]

private theorem roundsCost_proceed {s : Store} {r : Round} {rs : List Round} (h : s.rounds = r :: rs) :
    roundsCost s.proceed.1.rounds < roundsCost s.rounds := by
  unfold Store.proceed
  rw [h]
  dsimp only
  split
  · simp [roundsCost]
  · rename_i hw
    simp [roundsCost, hw]

private theorem owed_proceed_lt {w : Watched} {r : Round} {rs : List Round} (fs : List Frame)
    (h : w.store.rounds = r :: rs) (hf : fs.countP (·.taken.isSome) ≤ w.frames.countP (·.taken.isSome)) :
    owed { w with shell := w.shell.proceed.1, frames := fs } < w.owed := by
  have := roundsCost_proceed h
  simp only [owed, store, Shell.proceed] at this ⊢
  omega

theorem advance_lt {w w' : Watched} (h : w.advance = some w') :
    Prod.Lex (· < ·) (· < ·) (w'.work, w'.owed) (w.work, w.owed) := by
  unfold advance at h
  split at h
  · simp at h
  · rename_i r rs hr
    split at h
    · rename_i hf
      simp only [Option.some.injEq] at h
      subst h
      refine Prod.Lex.right' _ (work_enter_le _ _) ?_
      rw [owed_enter]
      exact owed_proceed_lt w.frames hr (Nat.le_refl _)
    · rename_i f fs hf
      split at h
      · rename_i step answer ht
        simp only [Option.some.injEq] at h
        subst h
        refine Prod.Lex.right' _ (by simp [work, framesCost, hf]) ?_
        simp [owed, hf, ht, store]
      · rename_i step rest ht hrest
        simp only [Option.some.injEq] at h
        subst h
        refine Prod.Lex.left _ _ (Nat.lt_of_le_of_lt (work_enter_le _ _) ?_)
        have := observersCost_act w step
        simp only [work, framesCost, hf, hrest, stepsCost]
        omega
      · rename_i ht hrest
        simp only [Option.some.injEq] at h
        subst h
        refine Prod.Lex.right' _ (Nat.le_trans (work_enter_le _ _) ?_) ?_
        · simp [work, framesCost, hf, hrest, stepsCost]
        · rw [owed_enter]
          exact owed_proceed_lt fs hr (by simp [hf, ht])

/-- Lets the observers go on until no round is open. -/
def settle (w : Watched) : Watched :=
  match _h : w.advance with
  | none => w
  | some w' => settle w'
termination_by (w.work, w.owed)
decreasing_by exact advance_lt _h

theorem rounds_settle (w : Watched) : w.settle.store.rounds = [] := by
  induction w using settle.induct with
  | case1 w h =>
    rw [settle, h]
    unfold advance at h
    split at h
    · assumption
    · split at h
      · simp at h
      · split at h <;> simp at h
  | case2 w w' h ih => rw [settle, h]; exact ih

theorem settle_of_rounds_nil {w : Watched} (h : w.store.rounds = []) : w.settle = w := by
  rw [settle]
  split
  · rfl
  · rename_i w' h'
    unfold advance at h'
    rw [h] at h'
    simp at h'

/-! ### What the top level does -/

/-- Takes a step at the top level and lets the observers finish. -/
def perform (w : Watched) (s : Step) : Watched × Answer :=
  let (w', answer, call) := w.act s
  ((w'.enter call).settle, answer)

def start (w : Watched) (label : String) (job : Job) : Watched × Shell.Effect :=
  let (shell, effect) := w.shell.start label job
  (({ w with shell := shell }.enter effect.call).settle, effect)

def reply (w : Watched) (label : String) (r : Reply) : Watched × Shell.Effect :=
  let (shell, effect) := w.shell.reply label r
  (({ w with shell := shell }.enter effect.call).settle, effect)

def drop (w : Watched) (label : String) : Watched := { w with shell := w.shell.drop label }

/-! ### Signals -/

/-- Attaches a signal; it is the observer with the next free number. -/
def attachSignal (w : Watched) : Watched := w.subscribe (.signal w.store.snapshot true)

def signal? (w : Watched) (id : Nat) : Option AuthState :=
  match w.observers[id]? with
  | some (.signal state true) => some state
  | _ => none

/-- Stops a signal from showing anything. -/
def silence (w : Watched) (id : Nat) : Watched :=
  { w with observers := w.observers.modify id fun
      | .signal state _ => .signal state false
      | o => o }

theorem signal?_attachSignal (w : Watched) : w.attachSignal.signal? w.observers.length = some w.store.snapshot := by
  simp [attachSignal, subscribe, command, signal?]

end Watched

end ConsoleShell
