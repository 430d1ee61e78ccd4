import ConsoleShell.Observer.Watched

/-!
# Scenarios

A scenario follows one storage through reloads of the page. Each reload makes a new store over the storage; the
stores before it live on, with their observers and their waiting tasks, and still share the storage and the labels
of subscriptions with it. A task bears its label in the whole scenario: starting another one of that label drops
it, whichever store it belongs to.
-/

namespace ConsoleShell

structure Scenario where
  storage : Storage
  /-- The number of the latest subscription under each label. -/
  labels : List (String × Nat) := []
  first : Watched
  /-- The stores made by reloads, in order. -/
  later : List Watched := []

/-- What a conversation with the endpoints has come to within one step. -/
structure Exchanged where
  posts : List Post := []
  /-- How many replies were handed in. -/
  used : Nat := 0
  outcome : Option Outcome := none

namespace Exchanged

def add (x : Exchanged) (e : Shell.Effect) : Exchanged :=
  { x with posts := x.posts ++ e.post.toList, outcome := e.outcome }

end Exchanged

namespace Watched

/-- Hands in replies one by one as long as the task waits. -/
def converse (w : Watched) (label : String) (x : Exchanged) : List Reply → Watched × Exchanged
  | [] => (w, x)
  | r :: rs =>
    if (w.shell.task? label).isSome then
      let (w', effect) := w.reply label r
      w'.converse label { x.add effect with used := x.used + 1 } rs
    else (w, x)

def startAndConverse (w : Watched) (label : String) (job : Job) (replies : List Reply) : Watched × Exchanged :=
  let (w', effect) := w.start label job
  w'.converse label (({} : Exchanged).add effect) replies

end Watched

namespace Scenario

def new (storage : Storage) (endpoints : Endpoints) : Scenario :=
  { storage := storage, first := { shell := { store := .new storage, endpoints := endpoints } } }

/-- The number of the store in use. -/
def latest (s : Scenario) : Nat := s.later.length

def get (s : Scenario) : Nat → Watched
  | 0 => s.first
  | i + 1 => s.later[i]?.getD s.first

def set (s : Scenario) (w : Watched) : Nat → Scenario
  | 0 => { s with first := w }
  | i + 1 => { s with later := s.later.set i w }

/-- A store of the scenario, with the storage and the labels as they are now and no events yet. -/
def view (s : Scenario) (i : Nat) : Watched :=
  let w := s.get i
  { w with
    shell := { w.shell with store := { w.shell.store with storage := s.storage } }
    labels := s.labels
    events := [] }

def current (s : Scenario) : Watched := s.view s.latest

def on {α : Type} (s : Scenario) (i : Nat) (f : Watched → Watched × α) : Scenario × List Event × α :=
  let (w, a) := f (s.view i)
  ({ s with storage := w.shell.store.storage, labels := w.labels }.set w i, w.events, a)

def perform (s : Scenario) (step : Step) : Scenario × List Event × Answer := s.on s.latest (·.perform step)

/-- A new store over the same storage that adopts the stored token. -/
def reload (s : Scenario) : Scenario :=
  let fresh : Watched := { shell := { store := .new s.storage, endpoints := s.first.shell.endpoints } }
  let s' := { s with later := s.later ++ [fresh] }
  (s'.perform (.mutate .restore)).1

/-- After a reload, the store in use is a new one over the same storage that has adopted the stored token. -/
theorem store_current_reload (s : Scenario) : s.reload.current.store = s.current.store.reload := by
  have hstorage : s.current.store.storage = s.storage := rfl
  rw [Store.reload, hstorage]
  -- the new store has no observers, so the restore opens no round
  simp only [reload, perform, on, latest, view, get, List.length_append, List.length_singleton,
    List.getElem?_concat_length, Option.getD_some, Watched.perform, Watched.act, Watched.command, Shell.issue,
    Store.issue]
  rw [Watched.settle_of_rounds_nil]
  · simp [set, current, view, get, latest, Watched.store]
    rfl
  · rfl

/-- The store whose task waits under a label. -/
def holder? (s : Scenario) (label : String) : Option Nat :=
  (List.range (s.latest + 1)).find? fun i => ((s.get i).shell.task? label).isSome

/-- Drops the task under a label and says whether there was one. -/
def drop (s : Scenario) (label : String) : Scenario × Bool :=
  match s.holder? label with
  | some i => (s.set ((s.get i).drop label) i, true)
  | none => (s, false)

def start (s : Scenario) (label : String) (job : Job) (replies : List Reply) : Scenario × List Event × Exchanged :=
  let s' := (s.drop label).1
  s'.on s'.latest (·.startAndConverse label job replies)

/-- Hands a reply to the task under a label, if there is one. -/
def reply (s : Scenario) (label : String) (r : Reply) : Option (Scenario × List Event × Exchanged) :=
  (s.holder? label).map fun i => s.on i (·.converse label {} [r])

end Scenario

end ConsoleShell
