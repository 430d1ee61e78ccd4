import ConsoleShell.Proofs.ShellSteps
import Mathlib.Logic.Function.Basic

/-!
# Tasks as commits to an atomic session

A task holds on to what it has heard and changes the session, if at all, with its last reply. So token, profile and
stored value develop as if there were no tasks, only *commits* that change all they have to change at once.

* `Mutation.commit?`: what a mutation does to token, profile and stored value over a register.
* `Ledger.Follows.run`: a ledger that reads the record of a run and carries out its commits holds what the shell holds.
-/

namespace ConsoleShell

/-- What a session holds, and what is stored for the next one. -/
structure Holdings where
  token : Option String
  profile : Option Profile
  stored : Option String
  deriving DecidableEq

inductive Commit
  /-- An attempt to log in succeeds. -/
  | login (grant : Grant)
  /-- A refreshed profile is applied. -/
  | refresh (profile : Profile)
  | restore
  | signout
  /-- The stored value is cleared from outside. -/
  | clear

def Holdings.after (h : Holdings) (readOnly : Bool) : Commit → Holdings
  | .login g => ⟨some g.token, some g.profile, some g.token⟩
  | .refresh p => { h with profile := some p }
  | .restore => ⟨h.stored, none, h.stored⟩
  | .signout => ⟨none, none, if readOnly then h.stored else none⟩
  | .clear => { h with stored := none }

/-- The grant in the replies to a login: the token, then the profile. -/
def grantOf : List Reply → Option Grant
  | [r, r'] =>
    match tokenOf r, profileOf r' with
    | .ok token, .ok profile => some ⟨token, profile⟩
    | _, _ => none
  | _ => none

/-- Is the register read-only after a change, if it was before? -/
def Register.Change.readOnlyAfter (before : Bool) : Register.Change → Bool
  | .setReadOnly value => value
  | _ => before

/-- The event writes or removes the stored value past the session. -/
def Shell.Event.writes : Shell.Event → Bool
  | .move (.issue (.change (.save _))) | .move (.issue (.change .remove)) => true
  | _ => false

/-- The holdings, as somebody keeps them who sees nothing but the record of a run. -/
structure Ledger where
  holdings : Holdings
  key : String
  readOnly : Bool
  /-- The token that was held when the task under a label started. -/
  heldAtStart : String → Option String := fun _ => none
  /-- The replies that came under a label since then. -/
  heard : String → List Reply := fun _ => []

namespace Ledger

/-- The commit that an entry makes. -/
def commit? (l : Ledger) (x : Shell.Entry) : Option Commit :=
  match x.event with
  | .move (.issue (.mutate .restore)) => some .restore
  | .move (.issue (.mutate .signout)) => some .signout
  | .move (.issue (.change (.clear key))) => if key = l.key then some .clear else none
  | .reply label r =>
    match x.outcome with
    | some (.attempted (.ok ())) => (grantOf (l.heard label ++ [r])).map .login
    | some (.refreshed (.ok p)) =>
      if (l.heldAtStart label).isSome ∧ l.holdings.token = l.heldAtStart label then some (.refresh p) else none
    | _ => none
  | _ => none

/-- The ledger after an entry. -/
def record (l : Ledger) (x : Shell.Entry) : Ledger where
  holdings := (l.commit? x).elim l.holdings (l.holdings.after l.readOnly)
  key := l.key
  readOnly := x.event.change?.elim l.readOnly (·.readOnlyAfter l.readOnly)
  heldAtStart :=
    match x.event with
    | .start label _ => Function.update l.heldAtStart label l.holdings.token
    | _ => l.heldAtStart
  heard :=
    match x.event with
    | .start label _ => Function.update l.heard label []
    | .reply label r => Function.update l.heard label (l.heard label ++ [r])
    | _ => l.heard

end Ledger

/-- The commit that a mutation comes to, over a register. -/
def Mutation.commit? (readOnly : Bool) : Mutation → Option Commit
  | .restore => some .restore
  | .login token profile => if readOnly then none else some (.login ⟨token, profile⟩)
  | .signout => some .signout
  | .setProfile p => some (.refresh p)
  | .beginAttempt | .endAttempt => none

def holdingsOf (session : Session) (storage : Storage) : Holdings := ⟨session.token, session.profile, storage.load⟩

private theorem Register.load_save (r : Register) (token : String) :
    (r.change (.save token)).load = if r.readOnly then r.load else some token := by
  by_cases h : r.readOnly <;> simp [change, load, get?, h, Text.Keyed.find?_insert]

theorem Register.load_remove (r : Register) : (r.change .remove).load = if r.readOnly then r.load else none := by
  by_cases h : r.readOnly <;> simp [change, load, get?, h, Text.Keyed.find?_erase]

theorem Register.load_clear (r : Register) (key : String) :
    (r.change (.clear key)).load = if key = r.key then none else r.load := by
  simp [change, load, get?, Text.Keyed.find?_erase]

theorem Register.readOnly_change (r : Register) (c : Register.Change) :
    (r.change c).readOnly = c.readOnlyAfter r.readOnly := by
  cases c with
  | save token => simp only [change]; split <;> rfl
  | remove => simp only [change]; split <;> rfl
  | clear key => rfl
  | setReadOnly value => rfl

/-- A token that the storage accepts is kept. -/
theorem Storage.load_change_save {storage : Storage} {token : String} (h : storage.outcome (.save token) = .ok ()) :
    (storage.change (.save token)).load = some token := by
  cases storage with
  | unreachable => simp [outcome] at h
  | register r =>
    by_cases hr : r.readOnly
    · simp [outcome, Register.outcome, hr] at h
    · simp [change, load, Register.load_save, hr]

/-- Storage that refuses a token stays as it is. -/
theorem Storage.change_save_of_error {storage : Storage} {token : String} {e : StorageError}
    (h : storage.outcome (.save token) = .error e) : storage.change (.save token) = storage := by
  cases storage with
  | unreachable => rfl
  | register r =>
    by_cases hr : r.readOnly
    · simp [change, Register.change, hr]
    · simp [outcome, Register.outcome, hr] at h

private theorem holdingsOf_apply (session : Session) (r : Register) (m : Mutation) :
    holdingsOf (session.apply (.register r) m) ((Storage.register r).apply m) =
      (m.commit? r.readOnly).elim (holdingsOf session (.register r))
        ((holdingsOf session (.register r)).after r.readOnly) := by
  cases m with
  | restore => rfl
  | login token profile =>
    by_cases h : r.readOnly
    · simp [holdingsOf, Session.apply, Storage.apply, Storage.outcome, Storage.change, Register.outcome, h,
        Mutation.commit?, Storage.load, Register.load_save]
    · simp [holdingsOf, Session.apply, Storage.apply, Storage.outcome, Storage.change, Register.outcome, h,
        Mutation.commit?, Storage.load, Register.load_save, Holdings.after]
  | signout =>
    simp [holdingsOf, Session.apply, Storage.apply, Storage.change, Mutation.commit?, Storage.load,
      Register.load_remove, Holdings.after]
  | setProfile p => rfl
  | beginAttempt => rfl
  | endAttempt => rfl

/-! ### The ledger follows the shell -/

def Shell.holdings (s : Shell) : Holdings := holdingsOf s.store.session s.store.storage

/-- What a task that waits has been told, and what it goes by. -/
def Task.Fits (heldAtStart : Option String) (heard : List Reply) : Task → Prop
  | .query _ => True
  | .refresh sentWith => heldAtStart = sentWith
  | .token _ => heard = []
  | .profile _ t => ∃ r, heard = [r] ∧ tokenOf r = .ok t

structure Ledger.Follows (l : Ledger) (s : Shell) : Prop where
  holdings : l.holdings = s.holdings
  storage : ∃ r, s.store.storage = .register r ∧ r.key = l.key ∧ r.readOnly = l.readOnly
  tasks : ∀ label task, s.task? label = some task → task.Fits (l.heldAtStart label) (l.heard label)

namespace Shell

private theorem commit?_reply {l : Ledger} {s : Shell} (h : l.Follows s) (label : String) (r : Reply) :
    l.commit? (s.entry (.reply label r)) = (s.mutation? (.reply label r)).bind (·.commit? l.readOnly) := by
  simp only [Ledger.commit?, entry, outcome_step, mutation?, progress?]
  cases ht : s.task? label with
  | none => rfl
  | some task =>
    have hfits := h.tasks label task ht
    simp only [Option.map_some, Option.bind_some]
    cases task with
    | query shape => rfl
    | refresh sentWith =>
      have hheld : l.heldAtStart label = sentWith := hfits
      have htoken : l.holdings.token = s.store.session.token := by rw [h.holdings]; rfl
      rw [hheld, htoken]
      simp only [Task.resume]
      cases profileOf r with
      | error e => rfl
      | ok p =>
        simp only [Progress.outcome?, Progress.mutation?]
        split <;> rfl
    | token signIn =>
      simp only [Task.resume]
      cases tokenOf r with
      | error e => cases signIn <;> rfl
      | ok t => rfl
    | profile signIn t =>
      obtain ⟨r', hheard, hr'⟩ := hfits
      simp only [Task.resume]
      cases hp : profileOf r with
      | error e => cases signIn <;> rfl
      | ok p =>
        cases signIn with
        | false => rfl
        | true =>
          -- a read-only register refuses the token: the outcome is an error and the mutation no commit
          obtain ⟨reg, hreg, -, hro⟩ := h.storage
          have hgrant : grantOf (l.heard label ++ [r]) = some ⟨t, p⟩ := by
            simp [hheard, grantOf, hr', hp]
          simp only [if_true, Progress.outcome?, Progress.mutation?, stored, hreg, Storage.outcome,
            Register.outcome, hro, Option.bind_some, Mutation.commit?, hgrant]
          cases l.readOnly <;> rfl

theorem holdings_step {s : Shell} {r : Register} (hr : s.store.storage = .register r) {e : Event}
    (hc : e.change? = none) : (s.step e).1.holdings =
      ((s.mutation? e).bind (·.commit? r.readOnly)).elim s.holdings (s.holdings.after r.readOnly) := by
  rw [holdings, session_step, storage_step, hc, Option.elim_none, hr]
  cases s.mutation? e with
  | none => rw [holdings, hr]; rfl
  | some m =>
    rw [Option.elim_some, Option.elim_some, Option.bind_some, holdingsOf_apply, holdings, hr]

theorem holdings_change {s : Shell} {r : Register} (hr : s.store.storage = .register r) (c : Register.Change) :
    (s.step (.move (.issue (.change c)))).1.holdings = { s.holdings with stored := (r.change c).load } := by
  rw [holdings, storage_step, Event.change?, Option.elim_some, hr]
  rfl

theorem register_step {s : Shell} {r : Register} (hr : s.store.storage = .register r) (e : Event) :
    ∃ r', (s.step e).1.store.storage = .register r' ∧ r'.key = r.key ∧
      r'.readOnly = e.change?.elim r.readOnly (·.readOnlyAfter r.readOnly) := by
  rw [storage_step, hr]
  cases e.change? with
  | some c => exact ⟨r.change c, rfl, r.key_change c, r.readOnly_change c⟩
  | none =>
    simp only [Option.elim_none]
    cases s.mutation? e with
    | none => exact ⟨r, rfl, rfl, rfl⟩
    | some m =>
      cases m with
      | login token profile => exact ⟨r.change (.save token), rfl, r.key_change _, r.readOnly_change _⟩
      | signout => exact ⟨r.change .remove, rfl, r.key_change _, r.readOnly_change _⟩
      | restore => exact ⟨r, rfl, rfl, rfl⟩
      | setProfile p => exact ⟨r, rfl, rfl, rfl⟩
      | beginAttempt => exact ⟨r, rfl, rfl, rfl⟩
      | endAttempt => exact ⟨r, rfl, rfl, rfl⟩

end Shell

private theorem Job.fits_task (token : Option String) (job : Job) : (job.task token).Fits token [] := by
  cases job with
  | query request shape => trivial
  | refresh => rfl
  | authenticate credentials => rfl
  | attempt credentials => rfl

namespace Ledger

/-- An entry about another label leaves alone what is known of this one. -/
private theorem record_of_label?_ne {x : Shell.Entry} {label : String} (h : x.event.label? ≠ some label) (l : Ledger) :
    (l.record x).heldAtStart label = l.heldAtStart label ∧ (l.record x).heard label = l.heard label := by
  obtain ⟨e, post, outcome⟩ := x
  cases e with
  | move m => exact ⟨rfl, rfl⟩
  | start a job =>
    have hne : label ≠ a := fun hla => h (by rw [hla]; rfl)
    exact ⟨Function.update_of_ne hne _ _, Function.update_of_ne hne _ _⟩
  | reply a r =>
    have hne : label ≠ a := fun hla => h (by rw [hla]; rfl)
    exact ⟨rfl, Function.update_of_ne hne _ _⟩
  | drop a => exact ⟨rfl, rfl⟩

private theorem Follows.tasks_step {l : Ledger} {s : Shell} (h : l.Follows s) (e : Shell.Event) (label : String)
    (task : Task) (ht : (s.step e).1.task? label = some task) :
    task.Fits ((l.record (s.entry e)).heldAtStart label) ((l.record (s.entry e)).heard label) := by
  rcases Shell.cases_of_task?_step ht with ⟨hne, hold⟩ | ⟨job, rfl, rfl⟩ | ⟨r, signIn, t, rfl, hold, hr, rfl, -⟩
  · obtain ⟨hheld, hheard⟩ := record_of_label?_ne (x := s.entry e) hne l
    rw [hheld, hheard]
    exact h.tasks label task hold
  · have htoken : l.holdings.token = s.store.session.token := by rw [h.holdings]; rfl
    simp only [record, Shell.entry, Function.update_self, htoken]
    exact job.fits_task _
  · have hnil : l.heard label = [] := h.tasks label _ hold
    simp only [record, Shell.entry, Function.update_self, hnil]
    exact ⟨r, rfl, hr⟩

/-- Without a change to the storage, the commit of an entry is that of the mutation carried out. -/
private theorem Follows.commit?_entry {l : Ledger} {s : Shell} (h : l.Follows s) {e : Shell.Event}
    (hb : e.byHand = false) (hc : e.change? = none) :
    l.commit? (s.entry e) = (s.mutation? e).bind (·.commit? l.readOnly) := by
  cases e with
  | move m =>
    cases m with
    | proceed => rfl
    | issue c =>
      cases c with
      | mutate m =>
        cases m with
        | login token profile => simp [Shell.Event.byHand] at hb
        | setProfile p => simp [Shell.Event.byHand] at hb
        | _ => rfl
      | change c => simp [Shell.Event.change?] at hc
      | _ => rfl
  | start label job => cases job <;> rfl
  | reply label r => exact Shell.commit?_reply h label r
  | drop label => rfl

private theorem Follows.holdings_step {l : Ledger} {s : Shell} (h : l.Follows s) {e : Shell.Event}
    (hb : e.byHand = false) (hw : e.writes = false) : (l.record (s.entry e)).holdings = (s.step e).1.holdings := by
  obtain ⟨r, hr, hkey, hro⟩ := h.storage
  cases hc : e.change? with
  | none => rw [record, h.commit?_entry hb hc, Shell.holdings_step hr hc, h.holdings, hro]
  | some c =>
    obtain rfl := Shell.Event.eq_of_change? hc
    have hload := Shell.holdings_change hr c
    cases c with
    | save token => simp [Shell.Event.writes] at hw
    | remove => simp [Shell.Event.writes] at hw
    | setReadOnly value =>
      rw [hload]
      exact h.holdings.trans (by rw [Shell.holdings, hr]; rfl)
    | clear key =>
      simp only [record, commit?, Shell.entry, ← hkey]
      rw [hload, Register.load_clear, h.holdings]
      by_cases hk : key = r.key
      · rw [if_pos hk, if_pos hk]; rfl
      · rw [if_neg hk, if_neg hk, Shell.holdings, hr]; rfl

private theorem Follows.step {l : Ledger} {s : Shell} (h : l.Follows s) {e : Shell.Event} (hb : e.byHand = false)
    (hw : e.writes = false) : (l.record (s.entry e)).Follows (s.step e).1 where
  holdings := h.holdings_step hb hw
  storage := by
    obtain ⟨r, hr, hkey, hro⟩ := h.storage
    obtain ⟨r', hr', hkey', hro'⟩ := Shell.register_step hr e
    exact ⟨r', hr', hkey'.trans hkey, by rw [hro', hro]; rfl⟩
  tasks := h.tasks_step e

theorem Follows.run {l : Ledger} {s : Shell} (h : l.Follows s) {es : List Shell.Event}
    (hes : ∀ e ∈ es, e.byHand = false ∧ e.writes = false) :
    ((s.entries es).foldl record l).Follows (s.run es) := by
  induction es generalizing l s with
  | nil => exact h
  | cons e es ih =>
    have he := hes e (by simp)
    exact ih (h.step he.1 he.2) fun d hd => hes d (by simp [hd])

end Ledger

end ConsoleShell
