import ConsoleShell.Proofs.AtomicSession
import Mathlib

/-!
# Tasks that leave no trace

A query, a bare authentication, and an attempt to log in that does not succeed change neither token nor profile nor
stored value. Nothing that the other tasks do depends on them: without them, a run goes as it went.

* `Agree`: two shells of which one has tasks left out; `Agree.step` and `Agree.left_out` say what an event does to them.
* `agree_run`: what stays of a run has the record and the holdings that it had in the run.
* `refines_atomic_session`: holdings change by the commits of the record alone, and a run without its expendable tasks
  leaves the rest of record and holdings as they were.
-/

namespace ConsoleShell

/-- The items that are marked. -/
def select {α : Type} : List Bool → List α → List α
  | true :: ms, x :: xs => x :: select ms xs
  | false :: ms, _ :: xs => select ms xs
  | _, _ => []

namespace Shell

/-- The holdings after each event of a run. -/
def scan (s : Shell) : List Event → List Holdings
  | [] => []
  | e :: es => (s.step e).1.holdings :: (s.step e).1.scan es

/-- With the entry, the attempt under the label succeeds. -/
def Entry.succeeds (x : Entry) (label : String) : Bool :=
  x.event.label? = some label &&
    match x.outcome with
    | some (.attempted (.ok ())) => true
    | _ => false

/-- An attempt under the label succeeds before another job takes the label. -/
def succeeds (s : Shell) (label : String) : List Event → Bool
  | [] => false
  | e :: es => !e.starts label && ((s.entry e).succeeds label || (s.step e).1.succeeds label es)

/-- The job that has just started under the label does not change the holdings: it neither refreshes the profile nor is
it an attempt that succeeds. -/
def expendable (s : Shell) (label : String) (es : List Event) : Job → Bool
  | .refresh => false
  | .attempt _ => !s.succeeds label es
  | .query .. | .authenticate _ => true

/-- The events that stay when every expendable task is left out, with all events that are about it. The last job under
each of the labels `gone` is one of these. -/
def stays (s : Shell) (gone : List String) : List Event → List Bool
  | [] => []
  | e :: es =>
    let next := (s.step e).1
    match e with
    | .move _ => true :: next.stays gone es
    | .start label job =>
      match next.expendable label es job with
      | true => false :: next.stays (label :: gone) es
      | false => true :: next.stays (gone.filter (· ≠ label)) es
    | .reply label _ | .drop label => (label ∉ gone) :: next.stays gone es

/-- The shells agree on everything that holdings, requests and outcomes depend on, but for the tasks under some labels
and for the count of attempts. -/
structure Agree (gone : List String) (s t : Shell) : Prop where
  storage : t.store.storage = s.store.storage
  token : t.store.session.token = s.store.session.token
  profile : t.store.session.profile = s.store.session.profile
  endpoints : t.endpoints = s.endpoints
  tasks : ∀ label, label ∉ gone → t.task? label = s.task? label

/-- The event asks for no task that was left out. -/
def Event.Spares (gone : List String) (e : Event) : Prop := ∀ label r, e = .reply label r → label ∉ gone

namespace Agree

variable {gone : List String} {s t : Shell}

private theorem holdings (h : Agree gone s t) : t.holdings = s.holdings := by
  rw [Shell.holdings, Shell.holdings, holdingsOf, holdingsOf, h.token, h.profile, h.storage]

private theorem progress? (h : Agree gone s t) {label : String} (hl : label ∉ gone) (r : Reply) :
    t.progress? label r = s.progress? label r := by
  rw [Shell.progress?, Shell.progress?, h.tasks label hl, h.endpoints, h.token]

private theorem mutation? (h : Agree gone s t) {e : Event} (he : e.Spares gone) : t.mutation? e = s.mutation? e := by
  cases e with
  | reply label r => rw [Shell.mutation?, Shell.mutation?, h.progress? (he label r rfl)]
  | move m =>
    cases m with
    | proceed => rfl
    | issue c => cases c <;> rfl
  | start label job => rfl
  | drop label => rfl

private theorem entry (h : Agree gone s t) {e : Event} (he : e.Spares gone) : t.entry e = s.entry e := by
  rw [Shell.entry, Shell.entry, post_step, post_step, outcome_step, outcome_step]
  cases e with
  | reply label r =>
    have hstored : t.stored = s.stored := by
      funext token
      rw [stored, stored, h.storage]
    simp only [h.progress? (he label r rfl), hstored]
  | start label job => simp only [h.endpoints, h.token]
  | move m => rfl
  | drop label => rfl

end Agree

private theorem token_apply_congr {a b : Session} (h : a.token = b.token) (storage : Storage) (m : Mutation) :
    (a.apply storage m).token = (b.apply storage m).token := by
  cases m with
  | login token profile => simp only [Session.apply]; split; exacts [rfl, h]
  | restore => rfl
  | signout => rfl
  | setProfile p => exact h
  | beginAttempt => exact h
  | endAttempt => exact h

private theorem profile_apply_congr {a b : Session} (h : a.profile = b.profile) (storage : Storage) (m : Mutation) :
    (a.apply storage m).profile = (b.apply storage m).profile := by
  cases m with
  | login token profile => simp only [Session.apply]; split; exacts [rfl, h]
  | restore => rfl
  | signout => rfl
  | setProfile p => rfl
  | beginAttempt => exact h
  | endAttempt => exact h

/-- An event that both shells go through. A job that starts under a label takes its place in both. -/
theorem Agree.step {gone gone' : List String} {s t : Shell} (h : Agree gone s t) {e : Event} (he : e.Spares gone)
    (hgone : ∀ label, label ∉ gone' → e.starts label = false → label ∉ gone) :
    Agree gone' (s.step e).1 (t.step e).1 where
  storage := by rw [storage_step, storage_step, h.mutation? he, h.storage]
  token := by
    rw [session_step, session_step, h.mutation? he, h.storage]
    cases s.mutation? e with
    | none => exact h.token
    | some m => exact token_apply_congr h.token _ m
  profile := by
    rw [session_step, session_step, h.mutation? he, h.storage]
    cases s.mutation? e with
    | none => exact h.profile
    | some m => exact profile_apply_congr h.profile _ m
  endpoints := by rw [endpoints_step, endpoints_step, h.endpoints]
  tasks := by
    intro label hl
    rw [task?_step, task?_step]
    cases e with
    | move m => exact h.tasks label (hgone label hl rfl)
    | start a job =>
      by_cases ha : label = a
      · simp [ha, h.token]
      · have hkeep : label ∉ gone := hgone label hl (by simpa [Event.starts] using Ne.symm ha)
        simp [ha, h.tasks label hkeep]
    | reply a r => simp only [h.progress? (he a r rfl), h.tasks label (hgone label hl rfl)]
    | drop a => simp only [h.tasks label (hgone label hl rfl)]

/-- Over the storage, the mutation changes nothing but the count of attempts. -/
def idle (storage : Storage) : Mutation → Bool
  | .beginAttempt | .endAttempt => true
  | .login token _ => !(storage.outcome (.save token)).isOk
  | _ => false

private theorem apply_of_idle {storage : Storage} {m : Mutation} (h : idle storage m) (session : Session) :
    storage.apply m = storage ∧ (session.apply storage m).token = session.token ∧
      (session.apply storage m).profile = session.profile := by
  cases m with
  | login token profile =>
    cases ho : storage.outcome (.save token) with
    | ok u => simp [idle, ho, Except.isOk, Except.toBool] at h
    | error e => exact ⟨Storage.change_save_of_error ho, by simp [Session.apply, ho], by simp [Session.apply, ho]⟩
  | beginAttempt => exact ⟨rfl, rfl, rfl⟩
  | endAttempt => exact ⟨rfl, rfl, rfl⟩
  | restore => simp [idle] at h
  | signout => simp [idle] at h
  | setProfile p => simp [idle] at h

/-- An event that only the first shell goes through: it is about a task left out, and changes no holdings. -/
theorem Agree.left_out {gone gone' : List String} {s t : Shell} (h : Agree gone s t) {e : Event} {label : String}
    (he : e.label? = some label) (hl : label ∈ gone') (hgone : gone ⊆ gone')
    (hm : (s.mutation? e).all (idle s.store.storage)) : Agree gone' (s.step e).1 t := by
  have hc : e.change? = none := by
    cases e with
    | move m => simp [Event.label?] at he
    | _ => rfl
  have hsame : (s.step e).1.store.storage = s.store.storage ∧
      (s.step e).1.store.session.token = s.store.session.token ∧
      (s.step e).1.store.session.profile = s.store.session.profile := by
    rw [storage_step, session_step, hc, Option.elim_none]
    cases hs : s.mutation? e with
    | none => exact ⟨rfl, rfl, rfl⟩
    | some m =>
      rw [hs, Option.all_some] at hm
      exact apply_of_idle hm s.store.session
  obtain ⟨hstorage, htoken, hprofile⟩ := hsame
  refine ⟨h.storage.trans hstorage.symm, h.token.trans htoken.symm, h.profile.trans hprofile.symm, ?_, ?_⟩
  · rw [endpoints_step, h.endpoints]
  · intro other ho
    have hne : other ≠ label := fun hol => ho (hol ▸ hl)
    have hkeep : other ∉ gone := fun hg => ho (hgone hg)
    rw [h.tasks other hkeep, task?_step_of_ne]
    rw [he]
    exact fun hlo => hne (Option.some.inj hlo).symm

/-! ### Tasks left out -/

/-- Whatever waits under the label does not change the holdings in the run. -/
def Spent (s : Shell) (label : String) (es : List Event) : Prop :=
  ∀ task, s.task? label = some task →
    (∀ sentWith, task ≠ .refresh sentWith) ∧ (task.signsIn → s.succeeds label es = false)

private theorem Spent.step {s : Shell} {label : String} {e : Event} {es : List Event} (h : s.Spent label (e :: es))
    (he : e.starts label = false) : (s.step e).1.Spent label es := by
  have hsucc : s.succeeds label (e :: es) = false → (s.step e).1.succeeds label es = false := by
    intro hs
    simp only [succeeds, he, Bool.not_false, Bool.true_and, Bool.or_eq_false_iff] at hs
    exact hs.2
  intro task ht
  rcases cases_of_task?_step ht with ⟨-, hold⟩ | ⟨job, rfl, rfl⟩ | ⟨r, signIn, t, rfl, hold, -, rfl, -⟩
  · obtain ⟨hne, hs⟩ := h task hold
    exact ⟨hne, fun hsigns => hsucc (hs hsigns)⟩
  · simp [Event.starts] at he
  · -- a task that waits again is an attempt if it was one
    obtain ⟨-, hs⟩ := h _ hold
    exact ⟨by simp, fun hsigns => hsucc (hs hsigns)⟩

private theorem Spent.of_expendable {s : Shell} {label : String} {job : Job} {es : List Event}
    (h : (s.step (.start label job)).1.expendable label es job) : (s.step (.start label job)).1.Spent label es := by
  intro task ht
  simp only [task?_step, if_true, Option.some.injEq] at ht
  subst ht
  cases job with
  | query request shape => exact ⟨by simp [Job.task], by simp [Job.task, Task.signsIn]⟩
  | refresh => simp [expendable] at h
  | authenticate credentials => exact ⟨by simp [Job.task], by simp [Job.task, Task.signsIn]⟩
  | attempt credentials => exact ⟨by simp [Job.task], fun _ => by simpa [expendable] using h⟩

private theorem idle_opening (storage : Storage) (job : Job) : job.opening.all (idle storage) := by
  cases job <;> rfl

/-- A reply to a task left out ends an attempt, or does nothing to the session. -/
private theorem Spent.idle_reply {s : Shell} {label : String} {r : Reply} {es : List Event}
    (h : s.Spent label (.reply label r :: es)) : (s.mutation? (.reply label r)).all (idle s.store.storage) := by
  cases hm : s.mutation? (.reply label r) with
  | none => rfl
  | some m =>
    rcases cases_of_mutation?_reply hm with rfl | ⟨p, hp, ⟨t, ht, rfl⟩ | ⟨t, ht, -, rfl⟩⟩
    · rfl
    · -- the storage must have refused the token: otherwise the attempt has just succeeded
      have hfail := (h _ ht).2 rfl
      simp only [succeeds, Event.starts, Bool.not_false, Bool.true_and, Bool.or_eq_false_iff, Entry.succeeds,
        entry, outcome_step, Event.label?, decide_true, progress?, ht, Option.map_some, Option.bind_some,
        Task.resume, hp, if_true, Progress.outcome?, commitOutcome, stored] at hfail
      rw [Option.all_some, idle]
      cases ho : s.store.storage.outcome (.save t) with
      | ok u => simp [ho] at hfail
      | error e => rfl
    · exact absurd rfl ((h _ ht).1 (some t))

/-- What is marked of a run of `s` is a run of `t`: record and holdings are the same. -/
def Reproduces (t s : Shell) (ms : List Bool) (es : List Event) : Prop :=
  t.entries (select ms es) = select ms (s.entries es) ∧ t.scan (select ms es) = select ms (s.scan es)

private theorem Reproduces.kept {gone gone' : List String} {s t : Shell} {e : Event} {ms : List Bool} {es : List Event}
    (h : Agree gone s t) (he : e.Spares gone) (h' : Agree gone' (s.step e).1 (t.step e).1)
    (hrest : Reproduces (t.step e).1 (s.step e).1 ms es) : Reproduces t s (true :: ms) (e :: es) := by
  obtain ⟨hentries, hscan⟩ := hrest
  refine ⟨?_, ?_⟩
  · simp only [select, entries, hentries, h.entry he]
  · simp only [select, scan, hscan, h'.holdings]

private theorem Reproduces.left_out {s t : Shell} {e : Event} {ms : List Bool} {es : List Event}
    (hrest : Reproduces t (s.step e).1 ms es) : Reproduces t s (false :: ms) (e :: es) :=
  hrest

/-- What stays of a run goes as it went in the run. -/
theorem agree_run {gone : List String} {s t : Shell} {es : List Event} (h : Agree gone s t)
    (hgone : ∀ label ∈ gone, s.Spent label es) : Reproduces t s (s.stays gone es) es := by
  induction es generalizing gone s t with
  | nil => exact ⟨rfl, rfl⟩
  | cons e es ih =>
    cases e with
    | move m =>
      have hspares : (Event.move m).Spares gone := by intro label r he; simp at he
      have h' : Agree gone (s.step (.move m)).1 (t.step (.move m)).1 := h.step hspares fun label hl _ => hl
      exact .kept h hspares h' (ih h' fun label hl => (hgone label hl).step rfl)
    | start label job =>
      simp only [stays]
      cases hex : (s.step (.start label job)).1.expendable label es job with
      | true =>
        -- an older task that stayed goes on waiting in `t`, but nothing asks for it: its label is gone
        have h' : Agree (label :: gone) (s.step (.start label job)).1 t :=
          h.left_out rfl (by simp) (fun a ha => by simp [ha]) (idle_opening _ job)
        refine .left_out (ih h' ?_)
        intro a ha
        by_cases hal : a = label
        · subst hal
          exact .of_expendable hex
        · have hmem : a ∈ gone := (List.mem_cons.1 ha).resolve_left hal
          exact (hgone a hmem).step (by simpa [Event.starts] using Ne.symm hal)
      | false =>
        -- whatever was left out under the label before, the new task is in both shells
        have hspares : (Event.start label job).Spares gone := by intro a r he; simp at he
        have h' : Agree (gone.filter (· ≠ label)) (s.step (.start label job)).1 (t.step (.start label job)).1 := by
          refine h.step hspares ?_
          intro a ha hne hmem
          have hla : a ≠ label := by
            rintro rfl
            simp [Event.starts] at hne
          exact ha (List.mem_filter.2 ⟨hmem, by simpa using hla⟩)
        refine .kept h hspares h' (ih h' ?_)
        intro a ha
        obtain ⟨hmem, hal⟩ := List.mem_filter.1 ha
        have hla : a ≠ label := by simpa using hal
        exact (hgone a hmem).step (by simpa [Event.starts] using hla.symm)
    | reply label r =>
      have hspent : ∀ a ∈ gone, (s.step (.reply label r)).1.Spent a es := fun a ha => (hgone a ha).step rfl
      by_cases hl : label ∈ gone
      · have h' : Agree gone (s.step (.reply label r)).1 t :=
          h.left_out rfl hl (fun _ ha => ha) (hgone label hl).idle_reply
        have hgo := Reproduces.left_out (ih h' hspent)
        simpa [stays, Event.label?, hl] using hgo
      · have hspares : (Event.reply label r).Spares gone := by
          intro a r' he
          obtain ⟨rfl, -⟩ : label = a ∧ r = r' := by simpa using he
          exact hl
        have h' : Agree gone (s.step (.reply label r)).1 (t.step (.reply label r)).1 :=
          h.step hspares fun a ha _ => ha
        have hstay := Reproduces.kept h hspares h' (ih h' hspent)
        simpa [stays, Event.label?, hl] using hstay
    | drop label =>
      have hspent : ∀ a ∈ gone, (s.step (.drop label)).1.Spent a es := fun a ha => (hgone a ha).step rfl
      by_cases hl : label ∈ gone
      · have h' : Agree gone (s.step (.drop label)).1 t := h.left_out rfl hl (fun _ ha => ha) rfl
        have hgo := Reproduces.left_out (ih h' hspent)
        simpa [stays, Event.label?, hl] using hgo
      · have hspares : (Event.drop label).Spares gone := by intro a r he; simp at he
        have h' : Agree gone (s.step (.drop label)).1 (t.step (.drop label)).1 := h.step hspares fun a ha _ => ha
        have hstay := Reproduces.kept h hspares h' (ih h' hspent)
        simpa [stays, Event.label?, hl] using hstay

/-- Token, profile and stored value are those of the ledger, at every point of a run; and the run without its expendable
tasks has the requests, outcomes and holdings that its events had in the run. -/
theorem refines_atomic_session {s : Shell} {r : Register} {es : List Event} (ht : s.tasks = [])
    (hr : s.store.storage = .register r) (hes : ∀ e ∈ es, e.byHand = false ∧ e.writes = false) :
    (s.run es).holdings =
        ((s.entries es).foldl Ledger.record { holdings := s.holdings, key := r.key, readOnly := r.readOnly }).holdings ∧
      s.entries (select (s.stays [] es) es) = select (s.stays [] es) (s.entries es) ∧
      s.scan (select (s.stays [] es) es) = select (s.stays [] es) (s.scan es) := by
  have hnone : ∀ label, s.task? label = none := fun label => by rw [task?, ht]; rfl
  have hfollows :
      ({ holdings := s.holdings, key := r.key, readOnly := r.readOnly } : Ledger).Follows s :=
    ⟨rfl, ⟨r, hr, rfl, rfl⟩, fun label task h => by simp [hnone label] at h⟩
  have hagree : Agree [] s s := ⟨rfl, rfl, rfl, rfl, fun _ _ => rfl⟩
  exact ⟨(hfollows.run hes).holdings.symm, agree_run hagree (by simp)⟩

/-- One attempt succeeds while another one fails and a query is given up. -/
theorem lone_success_stays :
    let r : Register := { key := "token" }
    let s := new (.register r) ⟨"/query", "/login"⟩
    let es : List Event :=
      [.start "first" (.attempt ⟨"a", "1"⟩), .start "second" (.attempt ⟨"b", "2"⟩),
        .start "query" (.query .userProfile .value), .reply "first" (.response ⟨200, "[\"t\"]"⟩),
        .reply "second" (.failed (.request "offline")), .drop "query",
        .reply "first" (.response ⟨200, "\x7b\"data\":\x7b\"userProfile\":[\"a\"]\x7d\x7d"⟩)]
    s.tasks = [] ∧ s.store.storage = .register r ∧ (∀ e ∈ es, e.byHand = false ∧ e.writes = false) ∧
      s.stays [] es = [true, false, false, true, false, false, true] ∧
      (s.run es).holdings = ⟨some "t", some ⟨"a"⟩, some "t"⟩ ∧
      (s.run es).holdings = ((s.entries es).foldl Ledger.record
        { holdings := s.holdings, key := "token", readOnly := false }).holdings ∧
      s.scan (select (s.stays [] es) es) = select (s.stays [] es) (s.scan es) := by
  intro r s es
  have ht : s.tasks = [] := rfl
  have hr : s.store.storage = .register r := rfl
  have hes : ∀ e ∈ es, e.byHand = false ∧ e.writes = false := by
    intro e he
    simp only [es, List.mem_cons, List.not_mem_nil, or_false] at he
    rcases he with rfl | rfl | rfl | rfl | rfl | rfl | rfl <;> exact ⟨rfl, rfl⟩
  have h := refines_atomic_session ht hr hes
  exact ⟨ht, hr, hes, by cbv, by cbv, h.1, h.2.2⟩

end Shell

end ConsoleShell
