import ConsoleShell.Guard

/-!
# When visitors are sent to the login view

Every run of the guarding effect reads the view and the auth state (`effect_eq`), so both can make it run again. A
watch is therefore always `Tracking`: what its last run has read is what there is now, but for changes that make it
due. So a tick leaves it `Settled`, and what the next tick does is known from the events between the two.

* `Settled.navigates_iff`: a tick after a tick navigates for a guard that holds and a change in between.
* `redirects`: what all ticks, and all other events, do from the installation until the owner is gone.
-/

namespace ConsoleShell.Watch

variable {w : Watch} {view : View} {state : AuthState} {events : List Event}

/-- The view after the events if it was `view` before them. -/
def viewAfter (view : View) (events : List Event) : View :=
  events.foldl (fun current e => match e with | .setView v => v | _ => current) view

/-- The state after the events if it was `state` before them. -/
def stateAfter (state : AuthState) (events : List Event) : AuthState :=
  events.foldl (fun current e => match e with | .setState s => s | _ => current) state

private theorem viewAfter_append (view : View) (xs ys : List Event) :
    viewAfter view (xs ++ ys) = viewAfter (viewAfter view xs) ys := List.foldl_append

private theorem stateAfter_append (state : AuthState) (xs ys : List Event) :
    stateAfter state (xs ++ ys) = stateAfter (stateAfter state xs) ys := List.foldl_append

private theorem run_append (w : Watch) (xs ys : List Event) : w.run (xs ++ ys) = (w.run xs).run ys := List.foldl_append

private theorem view_step (w : Watch) (e : Event) : (w.step e).1.view = viewAfter w.view [e] := by
  cases e with
  | tick => rw [step]; split <;> rfl
  | setState | setView | dispose => rfl

private theorem state_step (w : Watch) (e : Event) : (w.step e).1.state = stateAfter w.state [e] := by
  cases e with
  | tick => rw [step]; split <;> rfl
  | setState | setView | dispose => rfl

private theorem view_run (w : Watch) (events : List Event) : (w.run events).view = viewAfter w.view events :=
  (List.foldl_hom (·.view) fun w e => (view_step w e).symm).symm

private theorem state_run (w : Watch) (events : List Event) : (w.run events).state = stateAfter w.state events :=
  (List.foldl_hom (·.state) fun w e => (state_step w e).symm).symm

private theorem disposed_run (w : Watch) (events : List Event) :
    (w.run events).disposed = (w.disposed || decide (.dispose ∈ events)) := by
  induction events generalizing w with
  | nil => simp [run]
  | cons e events ih =>
    refine (ih (w.step e).1).trans ?_
    cases e with
    | tick => simp only [step]; split <;> simp
    | setState | setView | dispose => simp [step]

/-- The run that reads `view` and `state`. -/
def guardRun (view : View) (state : AuthState) : EffectRun where
  view := some view
  state := some state
  navigations := if shouldRedirect view state then [{ path := loginPath }] else []

theorem effect_eq (w : Watch) : w.effect = guardRun w.view w.state := by
  have hread : w.effect =
      ((if shouldRedirect w.view w.state then Tracked.navigate { path := loginPath } else pure () : Tracked Unit)
        w.toSources { view := some w.view, state := some w.state }).2 := rfl
  rw [hread, guardRun]
  split <;> rfl

/-- After a run that has read both, the effect is due when the state was set or the view is another one. -/
private theorem due_iff (hlast : w.last = some (guardRun view state)) (hlive : w.disposed = false) :
    w.due = true ↔ w.touched = true ∨ w.view ≠ view := by
  simp only [due, hlast, hlive, guardRun, Bool.not_false, Bool.true_and, Option.isSome_some, Option.any_some,
    Bool.or_eq_true, decide_eq_true_eq]
  exact or_congr_right ne_comm

/-- The last run has read both, and the state it has read is the present one if that was not set since. -/
def Tracking (w : Watch) : Prop :=
  ∀ r, w.last = some r → ∃ view state, r = guardRun view state ∧ (w.touched = false → state = w.state)

private theorem Tracking.step (h : w.Tracking) (e : Event) : (w.step e).1.Tracking := by
  cases e with
  | tick =>
    rw [Watch.step]
    split
    · intro r hr
      exact ⟨w.view, w.state, (Option.some.inj hr).symm.trans w.effect_eq, fun _ => rfl⟩
    · exact h
  | setState s =>
    intro r hr
    obtain ⟨view, state, hr, -⟩ := h r hr
    exact ⟨view, state, hr, fun htouched => absurd htouched (by simp [Watch.step])⟩
  | setView | dispose => exact h

private theorem Tracking.run (h : w.Tracking) (events : List Event) : (w.run events).Tracking := by
  induction events generalizing w with
  | nil => exact h
  | cons e events ih => exact ih (h.step e)

/-- A watch after a tick: its last run has read what there is, and nothing was set since. -/
structure Settled (w : Watch) : Prop where
  last : w.last = some (guardRun w.view w.state)
  untouched : w.touched = false

/-- If the effect is not due, its last run has read what there is already. -/
private theorem Tracking.settled_tick (h : w.Tracking) (hlive : w.disposed = false) : (w.step .tick).1.Settled := by
  rw [Watch.step]
  split
  · exact ⟨congrArg some w.effect_eq, rfl⟩
  · -- not due after all: nothing that the last run has read was touched
    rename_i hdue
    cases hlast : w.last with
    | none => simp [due, hlast, hlive] at hdue
    | some r =>
      obtain ⟨view, state, rfl, hstate⟩ := h r hlast
      rw [due_iff hlast hlive] at hdue
      obtain ⟨htouched, hview⟩ := not_or.1 hdue
      have huntouched : w.touched = false := Bool.eq_false_iff.2 htouched
      obtain rfl := hstate huntouched
      obtain rfl := Decidable.not_not.1 hview
      exact ⟨hlast, huntouched⟩

private theorem navigations_tick (w : Watch) :
    (w.step .tick).2 = if w.due && shouldRedirect w.view w.state then [{ path := loginPath }] else [] := by
  simp only [step]
  cases w.due with
  | false => rfl
  | true => simp [effect_eq, guardRun]

/-- Only ticks navigate. -/
private theorem navigations_of_ne_tick {e : Event} (h : e ≠ .tick) : (w.step e).2 = [] := by
  cases e with
  | tick => exact absurd rfl h
  | setState | setView | dispose => rfl

private theorem last_run_of_quiet (h : .tick ∉ events) : (w.run events).last = w.last := by
  induction events generalizing w with
  | nil => rfl
  | cons e events ih =>
    obtain ⟨he, hrest⟩ := List.ne_and_not_mem_of_not_mem_cons h
    refine (ih hrest).trans ?_
    cases e with
    | tick => exact absurd rfl he
    | setState | setView | dispose => rfl

private theorem touched_run_of_quiet (h : .tick ∉ events) :
    (w.run events).touched = true ↔ w.touched = true ∨ ∃ s, .setState s ∈ events := by
  induction events generalizing w with
  | nil => simp [run]
  | cons e events ih =>
    obtain ⟨he, hrest⟩ := List.ne_and_not_mem_of_not_mem_cons h
    refine (ih hrest).trans ?_
    cases e with
    | tick => exact absurd rfl he
    | setState => simp [step]
    | setView | dispose => simp [step]

/-- A tick makes up for what happened since the tick before: the state was set, or the view has become another one. -/
theorem Settled.navigates_iff (h : w.Settled) (hquiet : .tick ∉ events) (hlive : (w.run events).disposed = false) :
    ((w.run events).step .tick).2 = [{ path := loginPath }] ↔
      shouldRedirect (viewAfter w.view events) (stateAfter w.state events) = true ∧
        ((∃ s, .setState s ∈ events) ∨ viewAfter w.view events ≠ w.view) := by
  have hlast : (w.run events).last = some (guardRun w.view w.state) := (last_run_of_quiet hquiet).trans h.last
  have hdue : (w.run events).due = true ↔ (∃ s, .setState s ∈ events) ∨ viewAfter w.view events ≠ w.view := by
    rw [due_iff hlast hlive, touched_run_of_quiet hquiet, view_run]
    simp [h.untouched]
  rw [navigations_tick, view_run, state_run, ← hdue, and_comm]
  simp

/-! ### From the installation on -/

section Installed

variable (view state)

/-- A watch that has not run yet. -/
def installed : Watch := { view := view, state := state }

private theorem tracking_installed : (installed view state).Tracking := fun _ hr => nomatch hr

private theorem disposed_run_installed (events : List Event) :
    ((installed view state).run events).disposed = decide (.dispose ∈ events) := by
  rw [disposed_run]
  rfl

/-- A tick settles a watch that is not disposed of, on what the events before it have left behind. -/
private theorem settled_run_tick (hlive : .dispose ∉ events) :
    ((installed view state).run (events ++ [.tick])).Settled ∧
      ((installed view state).run (events ++ [.tick])).view = viewAfter view events ∧
      ((installed view state).run (events ++ [.tick])).state = stateAfter state events := by
  refine ⟨?_, ?_, ?_⟩
  · rw [run_append]
    exact ((tracking_installed view state).run events).settled_tick (by simp [disposed_run_installed, hlive])
  · rw [view_run, viewAfter_append]
    rfl
  · rw [state_run, stateAfter_append]
    rfl

end Installed

/-- No redirect is missed and none is without reason. The last run before the end of a tick has read the present view
and the present state, and has navigated to the login view if they call for it. A tick navigates at most once, and only
if they call for it; no other event navigates. If they call for it at a tick, it navigates if the state was set since
the tick before or the view is another one than at that tick, and the first tick navigates in any case. Nothing
navigates once the owner is gone. -/
theorem redirects (view : View) (state : AuthState) :
    (∀ events, .dispose ∉ events →
      ((installed view state).run (events ++ [.tick])).last = some
        { view := some (viewAfter view events)
          state := some (stateAfter state events)
          navigations :=
            if shouldRedirect (viewAfter view events) (stateAfter state events) then [{ path := "/login" }] else [] }) ∧
    (∀ events e, (((installed view state).run events).step e).2 ≠ [] →
      e = .tick ∧ (((installed view state).run events).step e).2 = [{ path := "/login" }] ∧
        shouldRedirect (viewAfter view events) (stateAfter state events) = true) ∧
    (∀ events, .tick ∉ events → .dispose ∉ events →
      shouldRedirect (viewAfter view events) (stateAfter state events) = true →
      (((installed view state).run events).step .tick).2 = [{ path := "/login" }]) ∧
    (∀ before between, .dispose ∉ before → .dispose ∉ between → .tick ∉ between →
      ((((installed view state).run (before ++ .tick :: between)).step .tick).2 = [{ path := "/login" }] ↔
        shouldRedirect (viewAfter view (before ++ between)) (stateAfter state (before ++ between)) = true ∧
          ((∃ s, .setState s ∈ between) ∨ viewAfter view (before ++ between) ≠ viewAfter view before))) ∧
    (∀ before after e, (((installed view state).run (before ++ .dispose :: after)).step e).2 = []) := by
  refine ⟨fun events hlive => ?current, fun events e he => ?sound, fun events hquiet hlive hguard => ?first,
    fun before between hbefore hlive hquiet => ?later, fun before after e => ?gone⟩
  case current =>
    obtain ⟨hsettled, hview, hstate⟩ := settled_run_tick view state hlive
    rw [hsettled.last, hview, hstate]
    rfl
  case sound =>
    by_cases htick : e = .tick
    · subst htick
      rw [navigations_tick, view_run, state_run] at he ⊢
      split at he
      · rename_i hdue
        exact ⟨rfl, if_pos hdue, (Bool.and_eq_true_iff.1 hdue).2⟩
      · exact absurd rfl he
    · exact absurd (navigations_of_ne_tick htick) he
  case first =>
    have hlast : ((installed view state).run events).last = none := last_run_of_quiet hquiet
    have hdue : ((installed view state).run events).due = true := by
      simp [due, hlast, disposed_run_installed, hlive]
    rw [navigations_tick, view_run, state_run, hdue]
    exact if_pos hguard
  case later =>
    obtain ⟨hsettled, hview, hstate⟩ := settled_run_tick view state hbefore
    have hsplit : before ++ .tick :: between = (before ++ [.tick]) ++ between := by simp
    have hlater := hsettled.navigates_iff hquiet (by rw [← run_append, disposed_run_installed]; simp [hbefore, hlive])
    rw [hview, hstate, ← viewAfter_append, ← stateAfter_append, ← run_append, ← hsplit] at hlater
    exact hlater
  case gone =>
    by_cases htick : e = .tick
    · subst htick
      rw [navigations_tick]
      simp [due, disposed_run_installed]
    · exact navigations_of_ne_tick htick

/-- A state set to the same value sends the visitor away again, a view that is back at its old value does not, and no
view sends away who has signed in or is about to. -/
theorem redirects_anew :
    ((installed .home {}).step .tick).2 = [{ path := "/login" }] ∧
      (((installed .home {}).run [.tick, .setState {}]).step .tick).2 = [{ path := "/login" }] ∧
      (((installed .home {}).run [.tick, .setView .login, .setView .home]).step .tick).2 = [] ∧
      (((installed .home {}).run [.tick, .setState { authenticating := true }]).step .tick).2 = [] ∧
      ∀ profile,
        (((installed .home {}).run [.tick, .setState ⟨true, false, profile⟩, .setView .orgs]).step .tick).2 = [] := by
  obtain ⟨-, hsound, hfirst, hlater, -⟩ := redirects .home {}
  have hstays (events : List Event) (h : ∀ view, shouldRedirect view (stateAfter {} events) = false) :
      (((installed .home {}).run events).step .tick).2 = [] := by
    refine Decidable.byContradiction fun hne => ?_
    have hguard := (hsound _ _ hne).2.2
    rw [h] at hguard
    cases hguard
  refine ⟨hfirst [] (by decide) (by decide) rfl, ?_, ?_, ?_, fun profile => ?_⟩
  · exact (hlater [] [.setState {}] (by decide) (by decide) (by decide)).2 ⟨rfl, .inl ⟨{}, by decide⟩⟩
  · have hback := hlater [] [.setView .login, .setView .home] (by decide) (by decide) (by decide)
    refine Decidable.byContradiction fun hne => ?_
    have hmoved := (hback.1 (hsound _ _ hne).2.1).2
    simp [viewAfter] at hmoved
  · exact hstays _ (shouldRedirect_eq_false_of_session (.inr rfl))
  · exact hstays _ (shouldRedirect_eq_false_of_session (.inl rfl))

end ConsoleShell.Watch
