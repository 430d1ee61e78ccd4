import ConsoleShell.Session.Store
import ConsoleShell.Task

/-!
# The shell of a console

A shell is a store together with the tasks that talk to the endpoints on its behalf, under labels. What happens in
a shell is a list of events: moves of the store, jobs that start, replies that arrive, and tasks that are dropped.
-/

namespace ConsoleShell

structure Shell where
  store : Store
  endpoints : Endpoints
  tasks : List (String × Task) := []

namespace Shell

inductive Event
  | move (m : Store.Move)
  | start (label : String) (job : Job)
  | reply (label : String) (r : Reply)
  | drop (label : String)

/-- What an event brings about, apart from the shell itself. -/
structure Effect where
  post : Option Post := none
  outcome : Option Outcome := none
  call : Option Call := none

def task? (s : Shell) (label : String) : Option Task := s.tasks.lookup label

def drop (s : Shell) (label : String) : Shell := { s with tasks := s.tasks.filter (·.1 ≠ label) }

/-- The shell with a task under a label, in place of an earlier one. -/
def put (s : Shell) (label : String) (t : Task) : Shell :=
  { s.drop label with tasks := (label, t) :: (s.drop label).tasks }

def issue (s : Shell) (c : Command) : Shell × Option Call :=
  ({ s with store := (s.store.issue c).1 }, (s.store.issue c).2)

def proceed (s : Shell) : Shell × Option Call := ({ s with store := s.store.proceed.1 }, s.store.proceed.2)

def mutate? (s : Shell) : Option Mutation → Shell × Option Call
  | some m => s.issue (.mutate m)
  | none => (s, none)

/-- Starts a job. An unfinished task of the same label is dropped. -/
def start (s : Shell) (label : String) (job : Job) : Shell × Effect :=
  let opened := (s.drop label).mutate? job.opening
  let token := opened.1.store.session.token
  (opened.1.put label (job.task token), { post := some (job.post s.endpoints token), call := opened.2 })

/-- Hands a reply to a task; nothing happens if there is none under the label. -/
def reply (s : Shell) (label : String) (r : Reply) : Shell × Effect :=
  match s.task? label with
  | none => (s, {})
  | some task =>
    match task.resume s.endpoints s.store.session.token r with
    | .posts post next => (s.put label next, { post := some post })
    | .ends mutation outcome =>
      let ended := (s.drop label).mutate? mutation
      (ended.1, { outcome := some outcome, call := ended.2 })
    | .commits grant =>
      let stored := s.store.storage.outcome (.save grant.token)
      let ended := (s.drop label).issue (.mutate (.login grant.token grant.profile))
      (ended.1, { outcome := some (commitOutcome stored), call := ended.2 })

def step (s : Shell) : Event → Shell × Effect
  | .move (.issue c) => ((s.issue c).1, { call := (s.issue c).2 })
  | .move .proceed => (s.proceed.1, { call := s.proceed.2 })
  | .start label job => s.start label job
  | .reply label r => s.reply label r
  | .drop label => (s.drop label, {})

def run (s : Shell) (events : List Event) : Shell := events.foldl (fun s e => (s.step e).1) s

theorem run_append (s : Shell) (es fs : List Event) : s.run (es ++ fs) = (s.run es).run fs := by simp [run]

end Shell

end ConsoleShell
