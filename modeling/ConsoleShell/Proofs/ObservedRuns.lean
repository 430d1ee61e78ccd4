import ConsoleShell.Observer.Watched
import ConsoleShell.Proofs.Nesting

/-!
# What scripted observers make of a shell

A shell with scripted observers moves by events of the shell alone: a step gives a command or only looks, and an observer
whose steps are taken returns. As the reactions are bounded, whatever the top level does comes to an end, and what has
happened until then is a run without an open round, so its trace is well nested.

* `shell_settle`: settling is the run of the turns that the observers take.
* `wellNested_perform`, `wellNested_start`, `wellNested_reply`: a step of the top level, a job that starts, and a reply,
  each with all that follows from it.
-/

namespace ConsoleShell

namespace Watched

variable (w : Watched)

/-- The command that a step gives to the store, if it does more than look. -/
def command? : Step → Option Command
  | .mutate m => some (.mutate m)
  | .teardown => some .teardown
  | .change c => some (.change c)
  | .get _ | .guard _ | .describe | .pause => none
  | .subscribe .. => some .subscribe
  | .unsubscribe label => (w.labels.lookup label).map .unsubscribe

/-- The event that a step makes of the shell. -/
def event? (s : Step) : Option Shell.Event := (w.command? s).map fun c => .move (.issue c)

/-- What `advance` does to the shell: a step of the innermost observer, or its return. A report does nothing. -/
def turn : Option Shell.Event :=
  match w.frames with
  | [] => some (.move .proceed)
  | f :: _ =>
    match f.taken, f.rest with
    | some _, _ => none
    | none, s :: _ => w.event? s
    | none, [] => some (.move .proceed)

/-- All the turns that the observers take until no round is open. -/
def turns (w : Watched) : List Shell.Event :=
  match _h : w.advance with
  | none => []
  | some w' => w.turn.toList ++ turns w'
termination_by (w.work, w.owed)
decreasing_by exact advance_lt _h

@[simp] theorem shell_enter (c : Option Call) : (w.enter c).shell = w.shell := by
  unfold enter
  split
  · rfl
  · split <;> rfl

private theorem shell_act (s : Step) : (w.act s).1.shell = w.shell.run (w.event? s).toList := by
  cases s with
  | unsubscribe label =>
    simp only [act, event?, command?]
    cases w.labels.lookup label <;> rfl
  | _ => rfl

private theorem shell_advance {w w' : Watched} (h : w.advance = some w') : w'.shell = w.shell.run w.turn.toList := by
  unfold advance at h
  unfold turn
  split at h
  · simp at h
  · cases hf : w.frames with
    | nil =>
      simp only [hf, Option.some.injEq] at h
      subst h
      exact shell_enter _ _
    | cons f fs =>
      simp only [hf] at h
      split at h
      · rename_i taken answer ht
        simp only [Option.some.injEq] at h
        subst h
        simp [ht]
      · rename_i s rest ht hrest
        simp only [Option.some.injEq] at h
        subst h
        rw [shell_enter]
        simp only [ht, hrest]
        exact w.shell_act s
      · rename_i ht hrest
        simp only [Option.some.injEq] at h
        subst h
        rw [shell_enter]
        simp only [ht, hrest]
        rfl

theorem shell_settle : w.settle.shell = w.shell.run w.turns := by
  induction w using settle.induct with
  | case1 w h =>
    rw [settle, turns, h]
    rfl
  | case2 w w' h ih =>
    rw [settle, turns, h]
    simp only [Shell.run_append, ← shell_advance h, ih]

/-- Whatever the top level starts with, the observers bring it to an end. -/
private theorem wellNested_settle {w w' : Watched} {es : List Shell.Event} (hw : w.store.rounds = [])
    (h : w'.shell = w.shell.run es) :
    w'.settle.shell = w.shell.run (es ++ w'.turns) ∧ Shell.WellNested (w.shell.trace (es ++ w'.turns)) := by
  have hrun : w'.settle.shell = w.shell.run (es ++ w'.turns) := by rw [shell_settle, h, Shell.run_append]
  have hover : (w.shell.run (es ++ w'.turns)).store.rounds = [] := by
    rw [← hrun]
    exact w'.rounds_settle
  have hpending := Shell.pending_trace hover
  have hstart : w.shell.store.rounds = [] := hw
  rw [hstart] at hpending
  exact ⟨hrun, hpending⟩

theorem wellNested_perform {w : Watched} (hw : w.store.rounds = []) (s : Step) :
    ∃ es, (w.perform s).1.shell = w.shell.run ((w.event? s).toList ++ es) ∧
      Shell.WellNested (w.shell.trace ((w.event? s).toList ++ es)) := by
  have h : ((w.act s).1.enter (w.act s).2.2).shell = w.shell.run (w.event? s).toList := by
    rw [shell_enter, shell_act]
  exact ⟨_, wellNested_settle hw h⟩

theorem wellNested_start {w : Watched} (hw : w.store.rounds = []) (label : String) (job : Job) :
    ∃ es, (w.start label job).1.shell = w.shell.run (.start label job :: es) ∧
      Shell.WellNested (w.shell.trace (.start label job :: es)) := by
  have h : (enter { w with shell := (w.shell.start label job).1 } (w.shell.start label job).2.call).shell =
      w.shell.run [.start label job] := shell_enter _ _
  exact ⟨_, wellNested_settle hw h⟩

theorem wellNested_reply {w : Watched} (hw : w.store.rounds = []) (label : String) (r : Reply) :
    ∃ es, (w.reply label r).1.shell = w.shell.run (.reply label r :: es) ∧
      Shell.WellNested (w.shell.trace (.reply label r :: es)) := by
  have h : (enter { w with shell := (w.shell.reply label r).1 } (w.shell.reply label r).2.call).shell =
      w.shell.run [.reply label r] := shell_enter _ _
  exact ⟨_, wellNested_settle hw h⟩

end Watched

end ConsoleShell
