import ConsoleShell.Session.Basic

/-!
# Session stores

A store is a session with its storage and the observers that are registered with it. A mutation is delivered in a
*round*: the state right after the mutation goes to every observer registered at that moment, in the order of
subscription, one call after the other. An observer may give further commands while it is being called; a mutation
among them opens a round of its own, which ends before the observer goes on. So the rounds under way form a stack,
and the observers now being called are the running ones of these rounds.

A run of a store is a list of moves: a command, given by whoever is running (an observer, or the top level when no
round is open), or the return of the observer called last.
-/

namespace ConsoleShell

/-- The registered observers by their numbers, in the order of subscription. Numbers are never used twice. They stand
for the values of a counter of 64 bits, which they are as long as fewer than `UInt64.size` observers were subscribed. -/
structure Registry where
  ids : List Nat := []
  next : Nat := 0
  deriving DecidableEq

namespace Registry

def subscribe (r : Registry) : Registry := { ids := r.ids ++ [r.next], next := r.next + 1 }

def unsubscribe (r : Registry) (id : Nat) : Registry := { r with ids := r.ids.filter (· ≠ id) }

def clear (r : Registry) : Registry := { r with ids := [] }

/-- Is there anything to unsubscribe? -/
def contains (r : Registry) (id : Nat) : Bool := r.ids.contains id

def size (r : Registry) : Nat := r.ids.length

end Registry

/-- One mutation on its way to the observers. -/
structure Round where
  /-- The state right after the mutation. -/
  state : AuthState
  running : Nat
  /-- The observers still to be called, in order. -/
  waiting : List Nat
  deriving DecidableEq

structure Store where
  session : Session := {}
  storage : Storage
  registry : Registry := {}
  /-- The rounds under way, the innermost first. -/
  rounds : List Round := []
  deriving DecidableEq

inductive Command
  | mutate (m : Mutation)
  | subscribe
  | unsubscribe (id : Nat)
  | teardown
  /-- Something done to the storage past the session. -/
  | change (c : Register.Change)
  deriving DecidableEq

structure Call where
  observer : Nat
  state : AuthState
  deriving DecidableEq

namespace Store

def snapshot (s : Store) : AuthState := s.session.snapshot

/-- A new store over a storage, which has not looked into it yet. -/
def new (storage : Storage) : Store := { storage := storage }

/-- The store with a mutation applied and nobody told yet. -/
def apply (s : Store) (m : Mutation) : Store :=
  { s with session := s.session.apply s.storage m, storage := s.storage.apply m }

/-- A new store over the same storage that has adopted the stored token, as after a reload of the page. -/
def reload (s : Store) : Store := (new s.storage).apply .restore

/-- Opens the round of a mutation that has just been applied and calls the first observer. -/
def openRound (s : Store) : Store × Option Call :=
  match s.registry.ids with
  | [] => (s, none)
  | id :: rest => ({ s with rounds := ⟨s.snapshot, id, rest⟩ :: s.rounds }, some ⟨id, s.snapshot⟩)

/-- Carries out a command; a mutation calls the first observer. -/
def issue (s : Store) : Command → Store × Option Call
  | .mutate m => (s.apply m).openRound
  | .subscribe => ({ s with registry := s.registry.subscribe }, none)
  | .unsubscribe id => ({ s with registry := s.registry.unsubscribe id }, none)
  | .teardown => ({ s with registry := s.registry.clear }, none)
  | .change c => ({ s with storage := s.storage.change c }, none)

/-- The observer called last returns: the next one of its round is called, or the round is over. -/
def proceed (s : Store) : Store × Option Call :=
  match s.rounds with
  | [] => (s, none)
  | r :: rs =>
    match r.waiting with
    | [] => ({ s with rounds := rs }, none)
    | id :: rest => ({ s with rounds := ⟨r.state, id, rest⟩ :: rs }, some ⟨id, r.state⟩)

inductive Move
  | issue (c : Command)
  | proceed
  deriving DecidableEq

def move (s : Store) : Move → Store × Option Call
  | .issue c => s.issue c
  | .proceed => s.proceed

def run (s : Store) (moves : List Move) : Store := moves.foldl (fun s m => (s.move m).1) s

def calls (s : Store) : List Move → List Call
  | [] => []
  | m :: ms => (s.move m).2.toList ++ calls (s.move m).1 ms

@[simp] theorem session_openRound (s : Store) : s.openRound.1.session = s.session := by
  unfold openRound; split <;> rfl

@[simp] theorem storage_openRound (s : Store) : s.openRound.1.storage = s.storage := by
  unfold openRound; split <;> rfl

@[simp] theorem registry_openRound (s : Store) : s.openRound.1.registry = s.registry := by
  unfold openRound; split <;> rfl

@[simp] theorem session_proceed (s : Store) : s.proceed.1.session = s.session := by
  unfold proceed; split; · rfl
  split <;> rfl

@[simp] theorem storage_proceed (s : Store) : s.proceed.1.storage = s.storage := by
  unfold proceed; split; · rfl
  split <;> rfl

@[simp] theorem registry_proceed (s : Store) : s.proceed.1.registry = s.registry := by
  unfold proceed; split; · rfl
  split <;> rfl

theorem run_append (s : Store) (ms ns : List Move) : s.run (ms ++ ns) = (s.run ms).run ns := by
  simp [run]

end Store

end ConsoleShell
