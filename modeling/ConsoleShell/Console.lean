import ConsoleShell.Observer.Watched
import ConsoleShell.Scenario
import ConsoleShell.Settings

/-!
# The running console

A console has its settings, its routes and a session restored from storage. An owner may be attached to it: the
owner gets a signal that shows the state of the session and a handle on the console, and when the owner is cleaned
up, every observer of the session is dropped.
-/

namespace ConsoleShell

structure Owner where
  /-- The number of the observer behind its signal. -/
  observer : Nat
  alive : Bool := true

structure Console where
  settings : Settings
  routes : Table View
  scenario : Scenario
  /-- The owners under their labels, the latest first. -/
  owners : List (String × Owner) := []

namespace Settings

def endpoints (s : Settings) : Endpoints := { graphql := s.graphqlEndpoint, login := s.loginEndpoint }

end Settings

namespace Console

/-- A console over a storage, with the stored token adopted. -/
def start (settings : Settings) (storage : Storage) : Except TableError Console :=
  match settings.variant.table with
  | .error e => .error e
  | .ok routes =>
    let scenario := ((Scenario.new storage settings.endpoints).perform (.mutate .restore)).1
    .ok { settings := settings, routes := routes, scenario := scenario }

/-- The console's own store; reloads do not change it. -/
def own (c : Console) : Watched := c.scenario.view 0

def onOwn (c : Console) (f : Watched → Watched) : Console :=
  { c with scenario := (c.scenario.on 0 fun w => (f w, ())).1 }

def resolve (c : Console) (path : String) : View × Params := resolveView c.routes path

def owner? (c : Console) (label : String) : Option Owner := c.owners.lookup label

/-- Drops the observers of the session, also while one of them is being called. -/
def teardown (c : Console) : Console := c.onOwn fun w => (w.act .teardown).1

/-- The state that the signal of an owner shows; nothing once it is disposed of. -/
def signal? (c : Console) (label : String) : Option AuthState :=
  (c.owner? label).bind fun o => c.own.signal? o.observer

/-- Disposes of the signal of an owner; its observer stays and does nothing. -/
def disposeSignal (c : Console) (label : String) : Console :=
  match c.owner? label with
  | some o => c.onOwn (·.silence o.observer)
  | none => c

/-- Cleans up what an owner has: first the observers of the session go, then its signal. -/
def release (c : Console) (o : Owner) : Console :=
  if o.alive then c.teardown.onOwn (·.silence o.observer) else c

def cleanup (c : Console) (label : String) : Console :=
  match c.owner? label with
  | some o =>
    { c.release o with owners := c.owners.map fun p => if p.1 = label then (p.1, { p.2 with alive := false }) else p }
  | none => c

/-- Attaches a new owner. An owner of the same label goes once the new one is there. -/
def attach (c : Console) (label : String) : Console :=
  let observer := c.own.store.registry.next
  let attached := c.onOwn (·.attachSignal)
  let released := match c.owner? label with
    | some o => attached.release o
    | none => attached
  { released with owners := (label, { observer := observer }) :: c.owners.filter (·.1 ≠ label) }

/-- The token as the handle of an owner sees it; nothing once the owner is gone. -/
def handle? (c : Console) (label : String) : Option (Option String) :=
  (c.owner? label).bind fun o => if o.alive then some c.own.store.session.token else none

/-- What the transport says to an endpoint that is no absolute URL. -/
def refusal : TransportError := .request "not an absolute URL"

/-- A label that no task has. -/
def freeLabel (s : Shell) : String := "own" ++ String.join (s.tasks.map (·.1))

/-- Runs a job of the console whose first request is refused. -/
def runRefused (c : Console) (job : Job) : Console × List Event × Option Outcome :=
  let (scenario, events, x) :=
    c.scenario.on 0 fun w => w.startAndConverse (freeLabel w.shell) job [.failed refusal]
  ({ c with scenario := scenario }, events, x.outcome)

end Console

end ConsoleShell
