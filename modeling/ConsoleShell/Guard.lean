import ConsoleShell.Route.Site
import ConsoleShell.Session.Basic

/-!
# The guard of protected views

A visitor who has settled without a session must not see a protected view and is sent to the login view. An effect
looks after this: it reads the view and the auth state and navigates if the guard says so. What a run of it reads is
recorded. It runs on the first tick, and on a later tick only on account of what its last run has read: the auth
state if it was set since, be it to the same value, and the view if it has become another one.

* `shouldRedirect_iff`: when the guard sends a visitor away.
-/

namespace ConsoleShell

def shouldRedirect (view : View) (state : AuthState) : Bool := !view.isPublic && state.settledSignedOut

theorem shouldRedirect_iff {view : View} {state : AuthState} : shouldRedirect view state = true ↔
    view.isPublic = false ∧ state.authenticated = false ∧ state.authenticating = false := by
  simp [shouldRedirect, ← AuthState.settledSignedOut_iff]

/-- Neither a visitor with a session nor one who is about to get one is sent away. -/
theorem shouldRedirect_eq_false_of_session {state : AuthState}
    (h : state.authenticated = true ∨ state.authenticating = true) (view : View) :
    shouldRedirect view state = false := by
  rw [Bool.eq_false_iff, Ne, shouldRedirect_iff]
  rintro ⟨-, hout, hidle⟩
  simp [hout, hidle] at h

theorem shouldRedirect_eq_false_of_public {view : View} (h : view.isPublic = true) (state : AuthState) :
    shouldRedirect view state = false := by
  simp [shouldRedirect, h]

structure Navigation where
  path : String
  /-- Does the new location take the place of the present one in the history? -/
  replace : Bool := false
  deriving DecidableEq

/-- What an effect may read. -/
structure Sources where
  state : AuthState
  view : View
  deriving DecidableEq

/-- What one run of an effect has read and done. -/
structure EffectRun where
  view : Option View := none
  state : Option AuthState := none
  navigations : List Navigation := []
  deriving DecidableEq

abbrev Tracked := ReaderT Sources (StateM EffectRun)

namespace Tracked

def getView : Tracked View := do
  let sources ← read
  modify fun run => { run with view := some sources.view }
  return sources.view

def getState : Tracked AuthState := do
  let sources ← read
  modify fun run => { run with state := some sources.state }
  return sources.state

def navigate (n : Navigation) : Tracked Unit :=
  modify fun run => { run with navigations := run.navigations ++ [n] }

/-- Both are read before the guard decides. -/
def redirectUnauth : Tracked Unit := do
  let view ← getView
  let state ← getState
  if shouldRedirect view state then navigate { path := loginPath }

end Tracked

/-- The effect and what it reads from. -/
structure Watch extends Sources where
  last : Option EffectRun := none
  /-- The state was set since the last run. -/
  touched : Bool := false
  disposed : Bool := false
  deriving DecidableEq

namespace Watch

inductive Event
  /-- Pending effects run. -/
  | tick
  | setState (state : AuthState)
  | setView (view : View)
  /-- The owner is gone; nothing runs any more. -/
  | dispose
  deriving DecidableEq

/-- A run of the effect at this moment. -/
def effect (w : Watch) : EffectRun := (Tracked.redirectUnauth.run w.toSources {}).2

/-- Is there a reason to run? -/
def due (w : Watch) : Bool :=
  !w.disposed && match w.last with
    | none => true
    | some run => (run.state.isSome && w.touched) || run.view.any (· ≠ w.view)

/-- The watch after an event, and where that has navigated to. -/
def step (w : Watch) : Event → Watch × List Navigation
  | .tick =>
    if w.due then ({ w with last := some w.effect, touched := false }, w.effect.navigations)
    else (w, [])
  | .setState state => ({ w with state := state, touched := true }, [])
  | .setView view => ({ w with view := view }, [])
  | .dispose => ({ w with disposed := true }, [])

/-- Which of the events navigated. -/
def navigations (w : Watch) : List Event → List Bool
  | [] => []
  | e :: es => (!(w.step e).2.isEmpty) :: navigations (w.step e).1 es

def run (w : Watch) (events : List Event) : Watch := events.foldl (fun w e => (w.step e).1) w

end Watch

end ConsoleShell
