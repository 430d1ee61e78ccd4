import ConsoleShell.Proofs.Attempts
import Mathlib

/-!
# Attempts that settle

An attempt to log in begins with its job and settles with the reply that decides it, be it a grant that is saved, a
grant that the storage refuses, or a failure. One that is dropped before that never settles. The session may count too
few of the attempts that have not settled (`covered_iff`), but never too many: whatever lowers the count too early,
nothing but the beginning of an attempt raises it.

* `begun_eq`: every attempt that has begun has settled, was abandoned, or is in flight.
* `count_step_le`: an attempt that settles is taken off the count, and one that begins adds at most one to it.
* `count_le_unsettled`: so the session shows no attempt once all of them have settled.
-/

namespace ConsoleShell

/-- An attempt has come to this. -/
def Outcome.ofAttempt : Outcome → Bool
  | .attempted _ => true
  | _ => false

/-- A reply settles an attempt unless the attempt goes on waiting. -/
private theorem Task.ofAttempt_outcome? (task : Task) (endpoints : Endpoints) (held : Option String) (r : Reply)
    (stored : String → StorageResult) :
    ((task.resume endpoints held r).outcome? stored).any (·.ofAttempt) =
      (task.signsIn && !(task.resume endpoints held r).next?.any (·.signsIn)) := by
  cases task with
  | query shape => rfl
  | refresh sentWith =>
    simp only [resume]
    cases profileOf r <;> rfl
  | token signIn =>
    simp only [resume]
    cases tokenOf r <;> cases signIn <;> rfl
  | profile signIn t =>
    simp only [resume]
    cases profileOf r <;> cases signIn <;> rfl

/-- Only the beginning of an attempt raises the count. -/
private theorem Session.attempts_apply_le {m : Mutation} (h : m ≠ .beginAttempt) (s : Session) (storage : Storage) :
    (s.apply storage m).attempts.toNat ≤ s.attempts.toNat := by
  by_cases hends : m.ends
  · rw [attempts_apply_of_ends hends, fewerAttempts_toNat]
    omega
  · cases m with
    | restore => exact Nat.zero_le _
    | login token profile => simp [Mutation.ends] at hends
    | signout => exact Nat.zero_le _
    | setProfile p => exact Nat.le_refl _
    | beginAttempt => exact absurd rfl h
    | endAttempt => simp [Mutation.ends] at hends

namespace Shell

def Event.begins : Event → Bool
  | .start _ (.attempt _) => true
  | _ => false

/-- An attempt settles with the event, in whatever way. -/
def settles (s : Shell) (e : Event) : Bool := (s.step e).2.outcome.any (·.ofAttempt)

/-- An attempt that waits is dropped, or has to make way for another job. -/
def abandons (s : Shell) : Event → Bool
  | .start label _ | .drop label => s.attempts label
  | _ => false

/-- Attempts are counted by hand. -/
def Event.countsByHand : Event → Bool
  | .move (.issue (.mutate .beginAttempt)) => true
  | _ => false

private theorem Event.begins_start (label : String) (job : Job) : (Event.start label job).begins = job.signsIn := by
  cases job <;> rfl

private theorem settles_eq_false {s : Shell} {e : Event} (h : ∀ label r, e ≠ .reply label r) : s.settles e = false := by
  rw [settles, outcome_step]
  cases e with
  | reply label r => exact absurd rfl (h label r)
  | _ => rfl

private theorem settles_reply {s : Shell} {label : String} {task : Task} (ht : s.task? label = some task) (r : Reply) :
    s.settles (.reply label r) =
      (task.signsIn && !(task.resume s.endpoints s.store.session.token r).next?.any (·.signsIn)) := by
  rw [settles, outcome_step]
  simp only [progress?, ht, Option.map_some, Option.bind_some]
  exact task.ofAttempt_outcome? _ _ r _

/-- Nothing is settled without a task. -/
private theorem settles_reply_of_none {s : Shell} {label : String} (ht : s.task? label = none) (r : Reply) :
    s.settles (.reply label r) = false := by
  rw [settles, outcome_step]
  simp only [progress?, ht, Option.map_none, Option.bind_none]
  rfl

/-- What settles an attempt ends it in the session. -/
private theorem ends_of_settles {s : Shell} {e : Event} (h : s.settles e) : ∃ m, s.mutation? e = some m ∧ m.ends := by
  cases e with
  | reply label r =>
    cases ht : s.task? label with
    | none => simp [settles_reply_of_none ht] at h
    | some task =>
      rw [settles_reply ht, Bool.and_eq_true] at h
      obtain ⟨hsigns, hnext⟩ := h
      have hm : s.mutation? (.reply label r) =
          (task.resume s.endpoints s.store.session.token r).mutation? := by
        rw [mutation?, progress?, ht]
        rfl
      rw [hm]
      rcases Task.resume_of_signsIn hsigns s.endpoints s.store.session.token r with ⟨-, hends⟩ | ⟨hwaits, -⟩
      · exact hends
      · simp [hwaits] at hnext
  | _ => simp [settles_eq_false] at h

/-- What settles, is abandoned, or goes on, was in flight before or has just begun. -/
private theorem inFlight_balance {s : Shell} (hd : s.Distinct) (e : Event) :
    s.inFlight + e.begins.toNat = (s.settles e).toNat + (s.abandons e).toNat + (s.step e).1.inFlight := by
  cases e with
  | move m =>
    have hn : (s.step (.move m)).1.inFlight = s.inFlight := inFlight_step s _
    rw [settles_eq_false (by simp), hn]
    simp [Event.begins, abandons]
  | start label job =>
    have hothers := countP_otherTasks hd label
    have hn : (s.step (.start label job)).1.inFlight =
        (s.otherTasks label).countP (·.2.signsIn) + job.signsIn.toNat := by
      rw [inFlight_step, nextTasks, inFlight_cons, Job.signsIn_task]
    rw [settles_eq_false (by simp), Event.begins_start, hn, ← hothers, abandons]
    simp only [Bool.toNat_false]
    omega
  | reply label r =>
    have hothers := countP_otherTasks hd label
    cases ht : s.task? label with
    | none =>
      have hp : s.progress? label r = none := by rw [progress?, ht]; rfl
      have hn : (s.step (.reply label r)).1.inFlight = s.inFlight := by
        rw [inFlight_step]
        simp only [nextTasks, hp]
        rfl
      rw [settles_reply_of_none ht, hn]
      simp [Event.begins, abandons]
    | some task =>
      have hp : s.progress? label r = some (task.resume s.endpoints s.store.session.token r) := by
        rw [progress?, ht]; rfl
      have hnow : s.attempts label = task.signsIn := by rw [attempts, ht]; rfl
      rw [settles_reply ht, inFlight_reply hp, ← hothers, hnow]
      cases hs : task.signsIn with
      | true =>
        cases (task.resume s.endpoints s.store.session.token r).next?.any (·.signsIn) <;>
          simp [Event.begins, abandons, Nat.add_comm]
      | false =>
        have hnext := (Task.resume_of_not_signsIn hs s.endpoints s.store.session.token r).1
        simp [hnext, Event.begins, abandons]
  | drop label =>
    have hothers := countP_otherTasks hd label
    have hn : (s.step (.drop label)).1.inFlight = (s.otherTasks label).countP (·.2.signsIn) := inFlight_step s _
    rw [settles_eq_false (by simp), hn, ← hothers, abandons]
    simp [Event.begins, Nat.add_comm]

/-- The mutation that an event carries out begins an attempt only if the event does, or if it counts by hand. -/
private theorem begins_of_mutation? {s : Shell} {e : Event} (hm : s.mutation? e = some .beginAttempt)
    (hh : e.countsByHand = false) : e.begins = true := by
  cases e with
  | move m =>
    cases m with
    | proceed => simp [mutation?] at hm
    | issue c =>
      cases c with
      | mutate m =>
        obtain rfl : m = .beginAttempt := Option.some.inj hm
        simp [Event.countsByHand] at hh
      | _ => simp [mutation?] at hm
  | start label job => cases job <;> simp [mutation?, Job.opening] at hm ⊢; rfl
  | reply label r =>
    rcases cases_of_mutation?_reply hm with h | ⟨p, -, ⟨t, -, h⟩ | ⟨t, -, -, h⟩⟩ <;> simp at h
  | drop label => simp [mutation?] at hm

/-- An attempt that begins adds at most one to the count, and one that settles is taken off it. -/
theorem count_step_le {s : Shell} {e : Event} (hh : e.countsByHand = false) :
    (s.step e).1.count ≤ s.count + e.begins.toNat - (s.settles e).toNat := by
  by_cases hs : s.settles e
  · obtain ⟨m, hm, hends⟩ := ends_of_settles hs
    rw [count_of_ends hm hends, hs, Bool.toNat_true]
    omega
  · rw [Bool.not_eq_true] at hs
    rw [hs, Bool.toNat_false, Nat.sub_zero, count, session_step]
    cases hm : s.mutation? e with
    | none => exact Nat.le_add_right _ _
    | some m =>
      rw [Option.elim_some]
      by_cases hbegin : m = .beginAttempt
      · subst hbegin
        rw [begins_of_mutation? hm hh, Bool.toNat_true]
        -- the count wraps around at its limit, which lowers it
        show (s.store.session.attempts + 1).toNat ≤ _
        rw [UInt32.toNat_add]
        exact Nat.mod_le _ _
      · exact Nat.le_add_right_of_le (Session.attempts_apply_le hbegin _ _)

/-! ### Whole runs -/

def begun (es : List Event) : Nat := es.countP (·.begins)

def settled (s : Shell) (es : List Event) : Nat := (s.trail es).countP fun x => x.1.settles x.2

def abandoned (s : Shell) (es : List Event) : Nat := (s.trail es).countP fun x => x.1.abandons x.2

/-- The attempts that have begun in the run and have not settled. -/
def unsettled (s : Shell) (es : List Event) : Nat := begun es - s.settled es

private theorem inFlight_run {s : Shell} (hd : s.Distinct) (es : List Event) :
    s.inFlight + begun es = s.settled es + s.abandoned es + (s.run es).inFlight := by
  induction es generalizing s with
  | nil => simp [begun, settled, abandoned, trail]
  | cons e es ih =>
    have hstep := inFlight_balance hd e
    have ih := ih (hd.step e)
    simp only [begun, settled, abandoned, trail, List.countP_cons, run_cons] at ih ⊢
    simp only [Bool.toNat, Bool.cond_eq_ite] at hstep
    omega

theorem begun_eq (storage : Storage) (endpoints : Endpoints) (es : List Event) :
    begun es = (new storage endpoints).settled es +
      ((new storage endpoints).abandoned es + ((new storage endpoints).run es).inFlight) := by
  have h := inFlight_run (s := new storage endpoints) List.nodup_nil es
  have h0 : (new storage endpoints).inFlight = 0 := rfl
  omega

private theorem count_run_le (storage : Storage) (endpoints : Endpoints) {es : List Event}
    (h : ∀ e ∈ es, e.countsByHand = false) :
    ((new storage endpoints).run es).count ≤ (new storage endpoints).unsettled es := by
  induction es using List.reverseRecOn with
  | nil => exact Nat.zero_le _
  | append_singleton es e ih =>
    have ih := ih fun d hd => h d (by simp [hd])
    have hstep := count_step_le (s := (new storage endpoints).run es) (h e (by simp))
    have hbegun := begun_eq storage endpoints es
    have hrun : (new storage endpoints).run (es ++ [e]) = (((new storage endpoints).run es).step e).1 := by
      rw [run_append]; rfl
    rw [hrun]
    simp only [unsettled, settled, begun, trail_append, trail, List.countP_append, List.countP_singleton] at ih hbegun ⊢
    simp only [Bool.toNat, Bool.cond_eq_ite] at hstep
    omega

/-- Whatever happens in a run, as long as nobody counts attempts by hand: the session never counts more attempts than
have begun and not settled, which are those in flight and those abandoned. So it shows no attempt once all have settled,
and, if none has been abandoned, as soon as none is in flight. -/
theorem count_le_unsettled (storage : Storage) (endpoints : Endpoints) {es : List Event}
    (h : ∀ e ∈ es, e.countsByHand = false) :
    let s := new storage endpoints
    (s.run es).count ≤ s.unsettled es ∧
      begun es = s.settled es + s.unsettled es ∧
      s.unsettled es = (s.run es).inFlight + s.abandoned es ∧
      (s.settled es = begun es → (s.run es).store.snapshot.authenticating = false) ∧
      (s.abandoned es = 0 → (s.run es).inFlight = 0 → (s.run es).store.snapshot.authenticating = false) := by
  intro s
  have hle : (s.run es).count ≤ s.unsettled es := count_run_le storage endpoints h
  have hbegun : begun es = s.settled es + (s.abandoned es + (s.run es).inFlight) := begun_eq storage endpoints es
  have hunsettled : s.unsettled es = (s.run es).inFlight + s.abandoned es := by
    unfold unsettled
    omega
  have hshown : s.unsettled es = 0 → (s.run es).store.snapshot.authenticating = false := by
    intro hzero
    rw [Bool.eq_false_iff, ne_eq, authenticating_iff]
    omega
  refine ⟨hle, by omega, hunsettled, ?_, ?_⟩
  · intro hall
    exact hshown (by omega)
  · intro hnone hquiet
    exact hshown (by omega)

/-- Three attempts end in three ways, one of them after a signout that has set the count to zero: the first one fails,
the storage refuses the second one, and the third one signs in. -/
theorem shown_until_settled :
    let s := new (.register { key := "token" }) ⟨"/query", "/login"⟩
    let granted : Reply := .response ⟨200, "[\"t\"]"⟩
    let profile : Reply := .response ⟨200, "\x7b\"data\":\x7b\"userProfile\":[\"a\"]\x7d\x7d"⟩
    let es : List Event :=
      [.start "first" (.attempt ⟨"a", "1"⟩), .start "second" (.attempt ⟨"b", "2"⟩), .move (.issue (.mutate .signout)),
        .start "third" (.attempt ⟨"c", "3"⟩), .reply "first" (.failed (.request "offline")),
        .move (.issue (.mutate .endAttempt)), .move (.issue (.change (.setReadOnly true))), .reply "second" granted,
        .reply "second" profile, .move (.issue (.change (.setReadOnly false))), .reply "third" granted,
        .reply "third" profile]
    (∀ e ∈ es, e.countsByHand = false) ∧ begun es = 3 ∧ s.settled es = 3 ∧
      (s.run es).store.session.token = some "t" ∧ (s.run es).store.snapshot.authenticating = false := by
  intro s granted profile es
  have hes : ∀ e ∈ es, e.countsByHand = false := by
    intro e he
    simp only [es, List.mem_cons, List.not_mem_nil, or_false] at he
    rcases he with rfl | rfl | rfl | rfl | rfl | rfl | rfl | rfl | rfl | rfl | rfl | rfl <;> rfl
  have hbegun : begun es = 3 := by cbv
  have hsettled : s.settled es = 3 := by cbv
  obtain ⟨-, -, -, hshown, -⟩ := count_le_unsettled (.register { key := "token" }) ⟨"/query", "/login"⟩ hes
  exact ⟨hes, hbegun, hsettled, by cbv, hshown (hsettled.trans hbegun.symm)⟩

end Shell

end ConsoleShell
