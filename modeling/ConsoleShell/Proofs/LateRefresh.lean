import ConsoleShell.Proofs.ShellSteps
import Mathlib

/-!
# Refreshed profiles that come late

A refresh goes by the token that its request was sent with: the profile is set if the session holds that token when the
reply comes. In the meantime the session may have been *renewed*, by a restore, a signout, or a login that the storage
accepts. Tokens are compared as texts, so a renewed session passes for the old one as soon as it has the same token.

* `token_run`: a session holds the token of its last renewal.
* `late_refresh`: a profile that comes late is set, in one round, exactly if there was a token to ask with and the last
  renewal since, if any, has brought the same token back; otherwise store and observers are left alone.
* `late_refresh_of_new_tokens`: if no renewal brings that token back, the profile is set exactly if there was none.
* `set_after_signout`: a signout and a login with the same token, and the profile of the session before is set.
-/

namespace ConsoleShell

/-- The token that a mutation renews the session with; `some none` if it leaves the session without one. -/
def Storage.renewal? (s : Storage) : Mutation → Option (Option String)
  | .restore => some s.load
  | .login token _ =>
    match s.outcome (.save token) with
    | .ok () => some (some token)
    | .error _ => none
  | .signout => some none
  | .setProfile _ | .beginAttempt | .endAttempt => none

private theorem Session.token_apply (s : Session) (storage : Storage) (m : Mutation) :
    (s.apply storage m).token = (storage.renewal? m).getD s.token := by
  cases m with
  | login token profile =>
    simp only [apply, Storage.renewal?]
    cases storage.outcome (.save token) <;> rfl
  | restore => rfl
  | signout => rfl
  | setProfile p => rfl
  | beginAttempt => rfl
  | endAttempt => rfl

namespace Shell

/-- The token that an event renews the session with. -/
def renewal? (s : Shell) (e : Event) : Option (Option String) := (s.mutation? e).bind s.store.storage.renewal?

/-- The tokens of all renewals in a run, in order. -/
def renewals (s : Shell) (es : List Event) : List (Option String) := (s.trail es).filterMap fun x => x.1.renewal? x.2

private theorem token_step (s : Shell) (e : Event) :
    (s.step e).1.store.session.token = (s.renewal? e).getD s.store.session.token := by
  rw [session_step, renewal?]
  cases s.mutation? e with
  | none => rfl
  | some m => exact Session.token_apply _ _ m

theorem token_run (s : Shell) (es : List Event) :
    (s.run es).store.session.token = (s.renewals es).getLast?.getD s.store.session.token := by
  induction es generalizing s with
  | nil => rfl
  | cons e es ih =>
    rw [run_cons, ih, token_step, renewals, renewals, trail, List.filterMap_cons]
    cases s.renewal? e with
    | none => rfl
    | some token => simp [List.getLast?_cons]

/-- A task waits on as long as nothing happens under its label. -/
private theorem task?_run_of_ne {s : Shell} {label : String} {es : List Event} (h : ∀ e ∈ es, e.label? ≠ some label) :
    (s.run es).task? label = s.task? label := by
  induction es generalizing s with
  | nil => rfl
  | cons e es ih => rw [run_cons, ih fun d hd => h d (by simp [hd]), task?_step_of_ne (h e (by simp))]

/-- The profile that a refresh waits for: it is set if the session holds the token that the refresh goes by. -/
private theorem step_reply_refresh {s : Shell} {label : String} {sent : Option String} {r : Reply} {p : Profile}
    (ht : s.task? label = some (.refresh sent)) (hr : profileOf r = .ok p) :
    (s.step (.reply label r)).2.outcome = some (.refreshed (.ok p)) ∧
      ((s.step (.reply label r)).1.store, (s.step (.reply label r)).2.call) =
        if sent.isSome ∧ s.store.session.token = sent then s.store.issue (.mutate (.setProfile p))
        else (s.store, none) := by
  simp only [step, reply, ht, Task.resume, hr]
  refine ⟨trivial, ?_⟩
  split <;> rfl

/-- What a refresh does whose reply comes late: whatever has happened since under other labels, the profile is its
outcome, and it is set exactly if the last renewal has left the token that the request was sent with. -/
theorem late_refresh {s : Shell} {label : String} {es : List Event} {r : Reply} {p : Profile}
    (hes : ∀ e ∈ es, e.label? ≠ some label) (hr : profileOf r = .ok p) :
    let sent := s.store.session.token
    let asked := (s.step (.start label .refresh)).1
    let late := asked.run es
    (late.step (.reply label r)).2.outcome = some (.refreshed (.ok p)) ∧
      ((late.step (.reply label r)).1.store, (late.step (.reply label r)).2.call) =
        if sent.isSome ∧ ∀ token ∈ (asked.renewals es).getLast?, token = sent then
          late.store.issue (.mutate (.setProfile p))
        else (late.store, none) := by
  intro sent asked late
  have ht : late.task? label = some (.refresh sent) := by
    rw [task?_run_of_ne hes, task?_step]
    simp [Job.task, sent]
  have hheld : late.store.session.token = sent ↔ ∀ token ∈ (asked.renewals es).getLast?, token = sent := by
    have hasked : asked.store.session.token = sent := token_step s (.start label .refresh)
    rw [token_run, hasked]
    cases (asked.renewals es).getLast? <;> simp
  simp only [← hheld]
  exact step_reply_refresh ht hr

/-- A restored session that attempts to log in leave alone gets its profile. -/
theorem set_after_failed_attempt :
    let s := ((new (.register (.holding "token" (some "tok"))) ⟨"/query", "/login"⟩).step
      (.move (.issue (.mutate .restore)))).1
    let es : List Event :=
      [.start "login" (.attempt ⟨"a", "1"⟩), .reply "login" (.response ⟨401, ""⟩), .start "other" .refresh]
    let r : Reply := .response ⟨200, "\x7b\"data\":\x7b\"userProfile\":[\"p\"]\x7d\x7d"⟩
    let late := (s.step (.start "again" .refresh)).1.run es
    (∀ e ∈ es, e.label? ≠ some "again") ∧ profileOf r = .ok ⟨"p"⟩ ∧
      (late.step (.reply "again" r)).2.outcome = some (.refreshed (.ok ⟨"p"⟩)) ∧
      ((late.step (.reply "again" r)).1.store, (late.step (.reply "again" r)).2.call) =
        late.store.issue (.mutate (.setProfile ⟨"p"⟩)) := by
  intro s es r late
  have hes : ∀ e ∈ es, e.label? ≠ some "again" := by
    intro e he
    simp only [es, List.mem_cons, List.not_mem_nil, or_false] at he
    rcases he with rfl | rfl | rfl <;> decide
  have hr : profileOf r = .ok ⟨"p"⟩ := by cbv
  have hnone : (s.step (.start "again" .refresh)).1.renewals es = [] := by cbv
  have hsent : s.store.session.token.isSome = true := by cbv
  obtain ⟨houtcome, hset⟩ := late_refresh (s := s) hes hr
  rw [hnone, if_pos ⟨hsent, by simp⟩] at hset
  refine ⟨hes, hr, ?_⟩
  dsimp only [late]
  exact ⟨houtcome, hset⟩

/-- The session is signed out and signed in again with the same token; the profile asked for before replaces the one
that came with the second login. -/
theorem set_after_signout :
    let s := (new (.register { key := "token" }) ⟨"/query", "/login"⟩).run
      [.move (.issue (.mutate (.login "tok" ⟨"first"⟩)))]
    let es : List Event := [.move (.issue (.mutate .signout)), .move (.issue (.mutate (.login "tok" ⟨"second"⟩)))]
    let r : Reply := .response ⟨200, "\x7b\"data\":\x7b\"userProfile\":[\"asked\"]\x7d\x7d"⟩
    let asked := (s.step (.start "again" .refresh)).1
    asked.renewals es = [none, some "tok"] ∧ profileOf r = .ok ⟨"asked"⟩ ∧
      (asked.run es).store.session.profile = some ⟨"second"⟩ ∧
      ((asked.run es).step (.reply "again" r)).1.store.session.profile = some ⟨"asked"⟩ := by
  intro s es r asked
  exact ⟨by cbv, by cbv, by cbv, by cbv⟩

/-- As long as no renewal brings back the token that the request was sent with, the profile is set exactly if the session
has not been renewed at all. -/
theorem late_refresh_of_new_tokens {s : Shell} {label : String} {es : List Event} {r : Reply} {p : Profile}
    (hes : ∀ e ∈ es, e.label? ≠ some label) (hr : profileOf r = .ok p)
    (hnew : ∀ token ∈ (s.step (.start label .refresh)).1.renewals es, token ≠ s.store.session.token) :
    let asked := (s.step (.start label .refresh)).1
    let late := asked.run es
    ((late.step (.reply label r)).1.store, (late.step (.reply label r)).2.call) =
      if s.store.session.token.isSome ∧ asked.renewals es = [] then late.store.issue (.mutate (.setProfile p))
      else (late.store, none) := by
  intro asked late
  have ht : late.task? label = some (.refresh s.store.session.token) := by
    rw [task?_run_of_ne hes, task?_step]
    simp [Job.task]
  have hheld : late.store.session.token = s.store.session.token ↔ asked.renewals es = [] := by
    have hasked : asked.store.session.token = s.store.session.token := token_step s (.start label .refresh)
    rw [token_run, hasked]
    cases hlast : (asked.renewals es).getLast? with
    | none => simpa using List.getLast?_eq_none_iff.1 hlast
    | some token =>
      have hmem : token ∈ asked.renewals es := List.mem_of_getLast? hlast
      constructor
      · intro hheld
        exact absurd hheld (hnew token hmem)
      · intro hnil
        simp [hnil] at hmem
  simp only [← hheld]
  exact (step_reply_refresh ht hr).2

end Shell

end ConsoleShell
