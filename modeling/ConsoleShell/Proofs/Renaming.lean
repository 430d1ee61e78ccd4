import ConsoleShell.Proofs.Requests
import Mathlib.Data.Option.Basic

/-!
# Tokens under other names

A renaming `ρ` replaces every token that a shell holds by another one: in the session, in the storage under the key of
the token, and in the tasks that wait. Events, requests and outcomes are renamed likewise. Every operation of a shell
commutes with a renaming, and what it reports does not depend on it. Only a refreshed profile asks whether two tokens are
equal, so this is the only place where a renaming has to be injective.

* `Storage.change_rename`, `Session.apply_rename`, `Store.move_rename`, `Task.resume_rename`: the operations one by one.
* `Shell.Renames`: the same event with renamed tokens, as a shell meets it.
* `Shell.step_rename`, `Shell.run_rename`: a step, and a run.
-/

namespace ConsoleShell

open Text

section Storage

variable (ρ : String → String)

/-- Only the entry under the key of the token is renamed. -/
def Register.rename (r : Register) : Register :=
  { r with entries := r.entries.mapValues fun key value => if key = r.key then ρ value else value }

def Register.Change.rename : Register.Change → Register.Change
  | .save token => .save (ρ token)
  | c => c

def Storage.rename : Storage → Storage
  | .register r => .register (r.rename ρ)
  | .unreachable => .unreachable

private theorem Register.change_rename (r : Register) (c : Change) :
    (r.rename ρ).change (c.rename ρ) = (r.change c).rename ρ := by
  cases c with
  | save token => cases h : r.readOnly <;> simp [rename, Change.rename, change, h, Keyed.mapValues_insert]
  | remove => cases h : r.readOnly <;> simp [rename, Change.rename, change, h, Keyed.mapValues_erase]
  | clear key =>
    simp only [rename, Change.rename, change, Keyed.mapValues_erase]
    rfl
  | setReadOnly value => rfl

@[simp] theorem Storage.load_rename (s : Storage) : (s.rename ρ).load = s.load.map ρ := by
  cases s with
  | register r => simp [rename, Register.rename, load, Register.load, Register.get?, Keyed.find?_mapValues]
  | unreachable => rfl

@[simp] theorem Storage.change_rename (s : Storage) (c : Register.Change) :
    (s.rename ρ).change (c.rename ρ) = (s.change c).rename ρ := by
  cases s with
  | register r => simp only [rename, change, Register.change_rename]
  | unreachable => rfl

@[simp] theorem Storage.outcome_rename (s : Storage) (c : Register.Change) :
    (s.rename ρ).outcome (c.rename ρ) = s.outcome c := by
  cases s <;> cases c <;> rfl

end Storage

section Session

variable (ρ : String → String)

def Mutation.rename : Mutation → Mutation
  | .login token profile => .login (ρ token) profile
  | m => m

def Session.rename (s : Session) : Session := { s with token := s.token.map ρ }

def Command.rename : Command → Command
  | .mutate m => .mutate (m.rename ρ)
  | .change c => .change (c.rename ρ)
  | c => c

def Store.rename (s : Store) : Store := { s with session := s.session.rename ρ, storage := s.storage.rename ρ }

def Store.Move.rename : Store.Move → Store.Move
  | .issue c => .issue (c.rename ρ)
  | .proceed => .proceed

/-- What the storage answers to a token does not depend on the token. -/
private theorem Storage.outcome_save_rename (s : Storage) (token : String) :
    (s.rename ρ).outcome (.save (ρ token)) = s.outcome (.save token) :=
  s.outcome_rename ρ (.save token)

theorem Session.apply_rename (s : Session) (storage : Storage) (m : Mutation) :
    (s.rename ρ).apply (storage.rename ρ) (m.rename ρ) = (s.apply storage m).rename ρ := by
  cases m with
  | login token profile =>
    simp only [Mutation.rename, apply, Storage.outcome_save_rename]
    cases storage.outcome (.save token) <;> rfl
  | restore => simp [Mutation.rename, apply, rename]
  | _ => rfl

private theorem Storage.apply_rename (s : Storage) (m : Mutation) :
    (s.rename ρ).apply (m.rename ρ) = (s.apply m).rename ρ := by
  cases m with
  | login token profile => exact s.change_rename ρ (.save token)
  | signout => exact s.change_rename ρ .remove
  | _ => rfl

@[simp] theorem Storage.report_rename (s : Storage) (m : Mutation) :
    (s.rename ρ).report (m.rename ρ) = s.report m := by
  cases m with
  | login token profile => exact congrArg some (s.outcome_rename ρ (.save token))
  | signout => exact congrArg some (s.outcome_rename ρ .remove)
  | _ => rfl

@[simp] theorem Store.snapshot_rename (s : Store) : (s.rename ρ).snapshot = s.snapshot := by
  simp only [snapshot, Session.snapshot, rename, Session.rename, Option.isSome_map]
  rfl

private theorem Store.apply_rename (s : Store) (m : Mutation) :
    (s.rename ρ).apply (m.rename ρ) = (s.apply m).rename ρ := by
  simp only [apply, rename, Session.apply_rename, Storage.apply_rename]

private theorem Store.openRound_rename (s : Store) :
    (s.rename ρ).openRound = (s.openRound.1.rename ρ, s.openRound.2) := by
  simp only [openRound, snapshot_rename]
  cases hids : s.registry.ids <;> simp [rename, hids]

private theorem Store.issue_rename (s : Store) (c : Command) :
    (s.rename ρ).issue (c.rename ρ) = ((s.issue c).1.rename ρ, (s.issue c).2) := by
  cases c with
  | mutate m =>
    simp only [Command.rename, issue, apply_rename]
    exact openRound_rename ρ _
  | change c => simp [Command.rename, issue, rename]
  | _ => rfl

private theorem Store.proceed_rename (s : Store) : (s.rename ρ).proceed = (s.proceed.1.rename ρ, s.proceed.2) := by
  cases hrounds : s.rounds with
  | nil => simp [proceed, rename, hrounds]
  | cons r rs => cases hwaiting : r.waiting <;> simp [proceed, rename, hrounds, hwaiting]

theorem Store.move_rename (s : Store) (m : Move) :
    (s.rename ρ).move (m.rename ρ) = ((s.move m).1.rename ρ, (s.move m).2) := by
  cases m with
  | issue c => exact s.issue_rename ρ c
  | proceed => exact s.proceed_rename ρ

end Session

section Task

variable (ρ : String → String)

def Post.rename (p : Post) : Post := { p with bearer := p.bearer.map ρ }

def Grant.rename (g : Grant) : Grant := { g with token := ρ g.token }

def Task.rename : Task → Task
  | .refresh sentWith => .refresh (sentWith.map ρ)
  | .profile signIn t => .profile signIn (ρ t)
  | task => task

def Outcome.rename : Outcome → Outcome
  | .granted (.ok g) => .granted (.ok (g.rename ρ))
  | o => o

def Progress.rename : Progress → Progress
  | .posts post task => .posts (post.rename ρ) (task.rename ρ)
  | .ends mutation outcome => .ends (mutation.map (·.rename ρ)) (outcome.rename ρ)
  | .commits grant => .commits (grant.rename ρ)

private theorem Job.post_rename (job : Job) (endpoints : Endpoints) (token : Option String) :
    job.post endpoints (token.map ρ) = (job.post endpoints token).rename ρ := by
  cases job <;> rfl

private theorem Job.task_rename (job : Job) (token : Option String) :
    job.task (token.map ρ) = (job.task token).rename ρ := by
  cases job <;> rfl

@[simp] theorem Job.opening_rename (job : Job) : job.opening.map (·.rename ρ) = job.opening := by
  cases job <;> rfl

private theorem Task.failed_rename (signIn : Bool) (e : LoginError) : (failed signIn e).rename ρ = failed signIn e := by
  cases signIn <;> rfl

/-- A reply that grants no token leads to the same but for the names of tokens. -/
theorem Task.resume_rename (hρ : Function.Injective ρ) {task : Task} {r : Reply} (h : task.grant? r = none)
    (endpoints : Endpoints) (held : Option String) :
    (task.rename ρ).resume endpoints (held.map ρ) r = (task.resume endpoints held r).rename ρ := by
  cases task with
  | query shape => rfl
  | refresh sentWith =>
    simp only [rename, resume]
    cases profileOf r with
    | error e => rfl
    | ok p =>
      simp only [Option.isSome_map, (Option.map_injective hρ).eq_iff, Progress.rename, Outcome.rename]
      split <;> rfl
  | token signIn =>
    simp only [rename, resume]
    cases ht : tokenOf r with
    | error e => exact (failed_rename ρ signIn e).symm
    | ok t => rw [grant?, tokenOf_eq_ok_iff.1 ht] at h; cases h
  | profile signIn t =>
    simp only [rename, resume]
    cases profileOf r with
    | error e => exact (failed_rename ρ signIn _).symm
    | ok p => cases signIn <;> rfl

/-- A reply that grants the renamed token leads to what the grant of the token leads to. -/
private theorem Task.resume_grant_rename {task : Task} {r r' : Reply} {t : String} (h : task.grant? r = some t)
    (h' : grantedToken? r' = some (ρ t)) (endpoints : Endpoints) (held : Option String) :
    (task.rename ρ).resume endpoints (held.map ρ) r' = (task.resume endpoints held r).rename ρ := by
  cases task with
  | token signIn => simp only [rename, resume, tokenOf_eq_ok_iff.2 h, tokenOf_eq_ok_iff.2 h']; rfl
  | _ => simp [grant?] at h

end Task

/-! ### Shells -/

namespace Shell

variable (ρ : String → String)

def Effect.rename (e : Effect) : Effect :=
  { e with post := e.post.map (·.rename ρ), outcome := e.outcome.map (·.rename ρ) }

def rename (s : Shell) : Shell :=
  { s with store := s.store.rename ρ, tasks := s.tasks.map fun p => (p.1, p.2.rename ρ) }

/-- The token that a reply grants to the task under a label. -/
def granted? (s : Shell) (label : String) (r : Reply) : Option String := (s.task? label).bind (·.grant? r)

/-- The same event with renamed tokens: in the commands, and in the replies that grant them. A reply that grants a token
may look different otherwise. -/
inductive Renames (s : Shell) : Event → Event → Prop
  | move (m : Store.Move) : Renames s (.move m) (.move (m.rename ρ))
  | start (label : String) (job : Job) : Renames s (.start label job) (.start label job)
  | drop (label : String) : Renames s (.drop label) (.drop label)
  | reply (label : String) {r : Reply} (h : s.granted? label r = none) : Renames s (.reply label r) (.reply label r)
  | grant (label : String) {r r' : Reply} {t : String} (h : s.granted? label r = some t)
      (h' : grantedToken? r' = some (ρ t)) : Renames s (.reply label r) (.reply label r')

variable (s : Shell)

private theorem task?_rename (label : String) : (s.rename ρ).task? label = (s.task? label).map (·.rename ρ) := by
  simp only [task?, rename]
  induction s.tasks with
  | nil => rfl
  | cons p tasks ih =>
    rw [List.map_cons, List.lookup_cons, List.lookup_cons, ih]
    split <;> rfl

private theorem drop_rename (label : String) : (s.rename ρ).drop label = (s.drop label).rename ρ := by
  simp only [drop, rename, List.filter_map]
  rfl

private theorem put_rename (label : String) (t : Task) :
    (s.rename ρ).put label (t.rename ρ) = (s.put label t).rename ρ := by
  simp only [put, drop_rename]
  rfl

private theorem issue_rename (c : Command) :
    (s.rename ρ).issue (c.rename ρ) = ((s.issue c).1.rename ρ, (s.issue c).2) := by
  simp only [issue, rename, Store.issue_rename]

private theorem mutate?_rename (m : Option Mutation) :
    (s.rename ρ).mutate? (m.map (·.rename ρ)) = ((s.mutate? m).1.rename ρ, (s.mutate? m).2) := by
  cases m with
  | none => rfl
  | some m => exact s.issue_rename ρ (.mutate m)

private theorem start_rename (label : String) (job : Job) :
    (s.rename ρ).start label job = ((s.start label job).1.rename ρ, (s.start label job).2.rename ρ) := by
  have hopened := (s.drop label).mutate?_rename ρ job.opening
  rw [Job.opening_rename] at hopened
  have htoken (t : Shell) : (t.rename ρ).store.session.token = t.store.session.token.map ρ := rfl
  simp only [start, drop_rename, hopened, htoken, Job.task_rename, Job.post_rename, put_rename]
  rfl

/-- Two replies do the same to two shells if they lead to the same but for the tokens. -/
private theorem reply_rename {s : Shell} {label : String} {task : Task} {r r' : Reply} (ht : s.task? label = some task)
    (h : (task.rename ρ).resume s.endpoints (s.store.session.token.map ρ) r' =
      (task.resume s.endpoints s.store.session.token r).rename ρ) :
    (s.rename ρ).reply label r' = ((s.reply label r).1.rename ρ, (s.reply label r).2.rename ρ) := by
  have ht' : (s.rename ρ).task? label = some (task.rename ρ) := by rw [task?_rename, ht]; rfl
  have h' : (task.rename ρ).resume (s.rename ρ).endpoints (s.rename ρ).store.session.token r' =
      (task.resume s.endpoints s.store.session.token r).rename ρ := h
  simp only [reply, ht, ht', h']
  cases task.resume s.endpoints s.store.session.token r with
  | posts post next => simp only [Progress.rename, put_rename]; rfl
  | ends mutation outcome => simp only [Progress.rename, drop_rename, mutate?_rename]; rfl
  | commits grant =>
    have hended := (s.drop label).issue_rename ρ (.mutate (.login grant.token grant.profile))
    have hstored : (s.rename ρ).store.storage.outcome (.save (ρ grant.token)) =
        s.store.storage.outcome (.save grant.token) := Storage.outcome_save_rename ρ _ _
    simp only [Command.rename, Mutation.rename] at hended
    simp only [Progress.rename, Grant.rename, drop_rename, hended, hstored]
    rfl

private theorem step_move (m : Store.Move) : s.step (.move m) =
    ({ s with store := (s.store.move m).1 }, { call := (s.store.move m).2 }) := by
  cases m <;> rfl

variable {ρ}

/-- A shell with renamed tokens takes the step of the shell as it is. -/
theorem step_rename (hρ : Function.Injective ρ) {s : Shell} {e e' : Event} (h : s.Renames ρ e e') :
    (s.rename ρ).step e' = ((s.step e).1.rename ρ, (s.step e).2.rename ρ) := by
  cases h with
  | move m =>
    have hmove : (s.rename ρ).store.move (m.rename ρ) = ((s.store.move m).1.rename ρ, (s.store.move m).2) :=
      s.store.move_rename ρ m
    rw [step_move, step_move, hmove]
    rfl
  | start label job => exact s.start_rename ρ label job
  | drop label => simp only [step, drop_rename]; rfl
  | @reply label r h =>
    cases ht : s.task? label with
    | none =>
      have ht' : (s.rename ρ).task? label = none := by rw [task?_rename, ht]; rfl
      simp only [step, Shell.reply, ht, ht']
      rfl
    | some task =>
      rw [granted?, ht, Option.bind_some] at h
      exact reply_rename ρ ht (Task.resume_rename ρ hρ h _ _)
  | @grant label r r' t h h' =>
    obtain ⟨task, ht, h⟩ := Option.bind_eq_some_iff.1 h
    exact reply_rename ρ ht (Task.resume_grant_rename ρ h h' _ _)

/-- The same events with renamed tokens, as a run meets them. -/
inductive RenamesRun (ρ : String → String) : Shell → List Event → List Event → Prop
  | nil (s : Shell) : RenamesRun ρ s [] []
  | cons {s : Shell} {e e' : Event} {es es' : List Event} (h : s.Renames ρ e e')
      (hs : RenamesRun ρ (s.step e).1 es es') : RenamesRun ρ s (e :: es) (e' :: es')

theorem RenamesRun.getElem? {s : Shell} {es es' : List Event} (h : RenamesRun ρ s es es') (k : Nat) :
    Option.Rel ((s.run (es.take k)).Renames ρ) es[k]? es'[k]? := by
  induction h generalizing k with
  | nil s => simp
  | cons h hs ih =>
    cases k with
    | zero => exact .some h
    | succ k => exact ih k

theorem run_rename (hρ : Function.Injective ρ) {s : Shell} {es es' : List Event} (h : RenamesRun ρ s es es') :
    (s.rename ρ).run es' = (s.run es).rename ρ := by
  induction h with
  | nil s => rfl
  | cons h hs ih => rw [run_cons, run_cons, step_rename hρ h, ih]

end Shell

end ConsoleShell
