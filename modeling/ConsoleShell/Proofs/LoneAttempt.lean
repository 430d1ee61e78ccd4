import ConsoleShell.Proofs.AtomicSession
import ConsoleShell.Proofs.Attempts
import ConsoleShell.Proofs.Nesting
import ConsoleShell.Proofs.Requests
import Mathlib

/-!
# An attempt to log in from end to end

With nothing else going on, an attempt hears at most two replies, and its stages follow one another: the token, the
profile that belongs to it, and the storage. It comes to the first of them that fails, and then everything is as it was
before; only if none does, the session takes token and profile over. Either way the attempt is counted once and taken
off the count once, and every observer is told of both.

* `run_delivered`: an event with the return of all who are called for it.
* `FirstFailure`: the failure of the first stage that fails, in terms of the two replies and the storage.
* `lone_attempt_settles`: what an attempt comes to, what it leaves behind, and what the observers are told.
-/

namespace ConsoleShell

open Json

namespace Shell

/-- The shell with nobody being called any more. -/
def hush (s : Shell) : Shell := { s with store := { s.store with rounds := [] } }

private theorem hush_of_rounds_nil {s : Shell} (h : s.store.rounds = []) : s.hush = s := by
  obtain ⟨⟨session, storage, registry, rounds⟩, endpoints, tasks⟩ := s
  obtain rfl : rounds = [] := h
  rfl

/-- The event, and so many returns of observers. -/
def delivered (observers : Nat) (e : Event) : List Event := e :: List.replicate observers (.move .proceed)

private theorem calls_cons (s : Shell) (e : Event) (es : List Event) :
    s.calls (e :: es) = (s.step e).2.call.toList ++ (s.step e).1.calls es := rfl

private theorem calls_append (s : Shell) (es fs : List Event) :
    s.calls (es ++ fs) = s.calls es ++ (s.run es).calls fs := by
  rw [calls, trail_append, List.flatMap_append, calls, calls]

private theorem outcomesOf_append (s : Shell) (label : String) (es fs : List Event) :
    s.outcomesOf label (es ++ fs) = s.outcomesOf label es ++ (s.run es).outcomesOf label fs := by
  induction es generalizing s with
  | nil => rfl
  | cons e es ih => rw [List.cons_append, outcomesOf_cons, outcomesOf_cons, ih, List.append_assoc, run_cons]

/-- When nobody is being called, nobody returns. -/
private theorem run_returns_of_rounds_nil {s : Shell} (h : s.store.rounds = []) (n : Nat) :
    s.run (List.replicate n (.move .proceed)) = s ∧ s.calls (List.replicate n (.move .proceed)) = [] := by
  have hstep : (s.step (.move .proceed)).1 = s ∧ (s.step (.move .proceed)).2.call = none := by
    simp [step, proceed, Store.proceed, h]
  induction n with
  | zero => exact ⟨rfl, rfl⟩
  | succ n ih =>
    rw [List.replicate_succ, run_cons, calls_cons, hstep.1, hstep.2]
    exact ih

/-- The observers of the only round return one after the other. -/
private theorem run_returns {s : Shell} {state : AuthState} {id : Nat} {rest : List Nat}
    (h : s.store.rounds = [⟨state, id, rest⟩]) :
    s.run (List.replicate (rest.length + 1) (.move .proceed)) = s.hush ∧
      s.calls (List.replicate (rest.length + 1) (.move .proceed)) = rest.map (⟨·, state⟩) := by
  induction rest generalizing s id with
  | nil =>
    have hstep : (s.step (.move .proceed)).1 = s.hush ∧ (s.step (.move .proceed)).2.call = none := by
      simp [step, proceed, Store.proceed, h, hush]
    simp only [List.length_nil, List.replicate_succ, List.replicate_zero, run_cons, calls_cons, hstep]
    exact ⟨rfl, rfl⟩
  | cons next rest ih =>
    have hrounds : (s.step (.move .proceed)).1.store.rounds = [⟨state, next, rest⟩] := by
      simp [step, proceed, Store.proceed, h]
    have hhush : (s.step (.move .proceed)).1.hush = s.hush := by
      simp [step, proceed, Store.proceed, h, hush]
    have hcall : (s.step (.move .proceed)).2.call = some ⟨next, state⟩ := by
      simp [step, proceed, Store.proceed, h]
    obtain ⟨hrun, hcalls⟩ := ih hrounds
    rw [List.length_cons, List.replicate_succ, run_cons, calls_cons, hrun, hhush, hcalls, hcall]
    exact ⟨rfl, rfl⟩

private theorem outcomesOf_returns (s : Shell) (label : String) (n : Nat) :
    s.outcomesOf label (List.replicate n (.move .proceed)) = [] := by
  induction n generalizing s with
  | zero => rfl
  | succ n ih =>
    rw [List.replicate_succ, outcomesOf_cons, ih]
    rfl

private theorem registry_step {s : Shell} {e : Event} {label : String} (h : e.label? = some label) :
    (s.step e).1.store.registry = s.store.registry := by
  rw [(s.move_step e).1]
  cases e with
  | move m => simp [Event.label?] at h
  | _ =>
    simp only [move?]
    cases s.mutation? _ <;> simp [Store.move, Store.issue, Store.apply]

private theorem run_calls_delivered {s : Shell} (hs : s.store.rounds = []) {e : Event} (he : e ≠ .move .proceed) :
    s.run (delivered s.store.registry.size e) = (s.step e).1.hush ∧
      s.calls (delivered s.store.registry.size e) = s.deliveries e := by
  rw [delivered, run_cons, calls_cons]
  have hquiet : s.deliveries e = [] ∧ (s.step e).1.store.rounds = s.store.rounds ∧ (s.step e).2.call = none →
      (s.step e).1.run (List.replicate s.store.registry.size (.move .proceed)) = (s.step e).1.hush ∧
        (s.step e).2.call.toList ++ (s.step e).1.calls (List.replicate s.store.registry.size (.move .proceed)) =
          s.deliveries e := by
    rintro ⟨hdeliveries, hrounds, hcall⟩
    have hnil := hrounds.trans hs
    obtain ⟨hrun, hcalls⟩ := run_returns_of_rounds_nil hnil s.store.registry.size
    rw [hrun, hcalls, hcall, hdeliveries, hush_of_rounds_nil hnil]
    exact ⟨rfl, rfl⟩
  cases hm : s.mutation? e with
  | none =>
    obtain ⟨hrounds, hcall⟩ := quiet_step hm he
    exact hquiet ⟨by simp [deliveries, hm], hrounds, hcall⟩
  | some m =>
    rcases mutation_step hm with hnone | ⟨id, rest, state, hdeliveries, hrounds, hcall⟩
    · exact hquiet hnone
    · have hsize : s.store.registry.size = rest.length + 1 := by
        have := congrArg List.length hdeliveries
        simpa [deliveries, hm, Registry.size] using this
      rw [hs] at hrounds
      obtain ⟨hrun, hcalls⟩ := run_returns hrounds
      rw [hsize, hrun, hcalls, hcall, hdeliveries]
      exact ⟨rfl, rfl⟩

/-- An event of a task, and the return of all observers: everybody has been told, once, and nobody is being called. -/
theorem run_delivered {s : Shell} (hs : s.store.rounds = []) {e : Event} {label : String} (hl : e.label? = some label) :
    s.run (delivered s.store.registry.size e) = (s.step e).1.hush ∧
      s.calls (delivered s.store.registry.size e) = s.deliveries e ∧
      s.outcomesOf label (delivered s.store.registry.size e) = (s.step e).2.outcome.toList := by
  have hne : e ≠ .move .proceed := by
    rintro rfl
    simp [Event.label?] at hl
  obtain ⟨hrun, hcalls⟩ := run_calls_delivered hs hne
  refine ⟨hrun, hcalls, ?_⟩
  rw [delivered, outcomesOf_cons, if_pos hl, outcomesOf_returns, List.append_nil]

end Shell

/-! ### The stages of an attempt -/

/-- The reply to a login grants a token. -/
def Grants (first : Reply) (token : String) : Prop :=
  ∃ x, first = .response x ∧ x.status = 200 ∧ decodeToken? x.body = some token

/-- The reply to a query for the profile brings one. -/
def Tells (second : Reply) (p : Profile) : Prop :=
  ∃ x data, second = .response x ∧ interpret x = .ok data ∧ profileOfData data = .ok p

/-- The text of the record that a rejected login may come with. -/
def errorText? (body : String) : Option String := (Tree.parse? body).bind (·.textRecord? "error")

/-- The failure of the first stage that fails, where the storage answers `stored` to a token. -/
inductive FirstFailure (stored : String → StorageResult) : (first second : Reply) → LoginError → Prop
  | unreached (cause : TransportError) (second : Reply) :
    FirstFailure stored (.failed cause) second (.transport cause)
  | rejected {x : Response} (second : Reply) (hstatus : x.status ≠ 200) :
    FirstFailure stored (.response x) second (.rejected x.status ((errorText? x.body).getD ""))
  | unreadable {x : Response} (second : Reply) (hstatus : x.status = 200) (htoken : decodeToken? x.body = none) :
    FirstFailure stored (.response x) second (.decode .malformed)
  | profileUnreached {first : Reply} {token : String} (cause : TransportError) (hfirst : Grants first token) :
    FirstFailure stored first (.failed cause) (.profile (.transport cause))
  | noData {first : Reply} {token : String} {x : Response} {e : QueryError} (hfirst : Grants first token)
    (hdata : interpret x = .error e) : FirstFailure stored first (.response x) (.profile e)
  | noProfile {first : Reply} {token : String} {x : Response} {data : Json} {e : QueryError}
    (hfirst : Grants first token) (hdata : interpret x = .ok data) (hprofile : profileOfData data = .error e) :
    FirstFailure stored first (.response x) (.profile e)
  | unsaved {first second : Reply} {token : String} {p : Profile} {e : StorageError} (hfirst : Grants first token)
    (hsecond : Tells second p) (hstored : stored token = .error e) : FirstFailure stored first second (.storage e)

private theorem rejectionText_eq (body : String) : rejectionText body = (errorText? body).getD "" := by
  rw [rejectionText, errorText?]
  cases Tree.parse? body with
  | none => rfl
  | some t =>
    simp only [Option.bind_some, Tree.textRecord?]
    split <;> rfl

private theorem tokenOf_eq_ok_iff_grants {r : Reply} {token : String} : tokenOf r = .ok token ↔ Grants r token := by
  rw [tokenOf_eq_ok_iff, Grants]
  cases r with
  | failed cause => simp [grantedToken?]
  | response x => by_cases hstatus : x.status = 200 <;> simp [grantedToken?, okStatus, hstatus]

private theorem profileOf_eq_ok_iff_tells {r : Reply} {p : Profile} : profileOf r = .ok p ↔ Tells r p := by
  rw [profileOf_eq_bind, Tells]
  cases r with
  | failed cause => simp [dataOf, Except.bind]
  | response x => cases hx : interpret x <;> simp [dataOf, hx, Except.bind]

variable {stored : String → StorageResult} {first second : Reply} {token : String}

private theorem firstFailure_of_tokenOf {e : LoginError} (h : tokenOf first = .error e) (second : Reply) :
    FirstFailure stored first second e := by
  cases first with
  | failed cause =>
    obtain rfl : .transport cause = e := Except.error.inj h
    exact .unreached cause second
  | response x =>
    rw [tokenOf] at h
    split at h
    · rename_i hstatus
      obtain rfl := Except.error.inj h
      rw [rejectionText_eq]
      exact .rejected second hstatus
    · rename_i hstatus
      cases htoken : decodeToken? x.body with
      | some token => simp [htoken] at h
      | none =>
        simp only [htoken] at h
        obtain rfl := Except.error.inj h
        exact .unreadable second (not_not.1 hstatus) htoken

private theorem firstFailure_of_profileOf (hfirst : Grants first token) {e : QueryError}
    (h : profileOf second = .error e) : FirstFailure stored first second (.profile e) := by
  cases second with
  | failed cause =>
    obtain rfl : .transport cause = e := Except.error.inj h
    exact .profileUnreached cause hfirst
  | response x =>
    rw [profileOf, dataOf] at h
    cases hdata : interpret x with
    | error cause =>
      simp only [hdata] at h
      obtain rfl := Except.error.inj h
      exact .noData hfirst hdata
    | ok data =>
      simp only [hdata] at h
      exact .noProfile hfirst hdata h

/-- What an attempt comes to, stage by stage. -/
def attemptResult (stored : String → StorageResult) (first second : Reply) : Except LoginError Grant :=
  match tokenOf first with
  | .error e => .error e
  | .ok token =>
    match profileOf second with
    | .error e => .error (.profile e)
    | .ok p =>
      match stored token with
      | .error e => .error (.storage e)
      | .ok () => .ok ⟨token, p⟩

private theorem attemptResult_eq_ok_iff {g : Grant} : attemptResult stored first second = .ok g ↔
    Grants first g.token ∧ Tells second g.profile ∧ stored g.token = .ok () := by
  rw [← tokenOf_eq_ok_iff_grants, ← profileOf_eq_ok_iff_tells]
  constructor
  · intro h
    unfold attemptResult at h
    split at h
    · cases h
    · rename_i token htoken
      split at h
      · cases h
      · rename_i p hp
        split at h
        · cases h
        · rename_i hstored
          obtain rfl := Except.ok.inj h
          exact ⟨htoken, hp, hstored⟩
  · rintro ⟨htoken, hp, hstored⟩
    simp [attemptResult, htoken, hp, hstored]

private theorem attemptResult_eq_error_iff {e : LoginError} :
    attemptResult stored first second = .error e ↔ FirstFailure stored first second e := by
  constructor
  · intro h
    unfold attemptResult at h
    split at h
    · rename_i cause hcause
      obtain rfl := Except.error.inj h
      exact firstFailure_of_tokenOf hcause second
    · rename_i token htoken
      have hfirst := tokenOf_eq_ok_iff_grants.1 htoken
      split at h
      · rename_i cause hcause
        obtain rfl := Except.error.inj h
        exact firstFailure_of_profileOf hfirst hcause
      · rename_i p hp
        split at h
        · rename_i cause hcause
          obtain rfl := Except.error.inj h
          exact .unsaved hfirst (profileOf_eq_ok_iff_tells.1 hp) hcause
        · cases h
  · intro h
    unfold attemptResult
    cases h with
    | unreached cause => rfl
    | rejected _ hstatus =>
      have hother : _ ≠ okStatus := hstatus
      simp only [tokenOf, if_pos hother, rejectionText_eq]
    | unreadable _ hstatus htoken =>
      have hok : ¬ _ ≠ okStatus := not_not_intro hstatus
      simp only [tokenOf, if_neg hok, htoken]
    | profileUnreached cause hfirst => simp [tokenOf_eq_ok_iff_grants.2 hfirst, profileOf, dataOf]
    | noData hfirst hdata => simp [tokenOf_eq_ok_iff_grants.2 hfirst, profileOf, dataOf, hdata]
    | noProfile hfirst hdata hprofile =>
      simp [tokenOf_eq_ok_iff_grants.2 hfirst, profileOf, dataOf, hdata, hprofile]
    | unsaved hfirst hsecond hstored =>
      simp [tokenOf_eq_ok_iff_grants.2 hfirst, profileOf_eq_ok_iff_tells.2 hsecond, hstored]

/-! ### The run of an attempt -/

private theorem toNat_add_one {n : UInt32} (h : n.toNat + 1 < UInt32.size) : (n + 1).toNat = n.toNat + 1 := by
  rw [UInt32.toNat_add]
  exact Nat.mod_eq_of_lt h

private theorem Session.fewerAttempts_add_one {n : UInt32} (h : n.toNat + 1 < UInt32.size) :
    fewerAttempts (n + 1) = n := by
  rw [← UInt32.toNat_inj, fewerAttempts_toNat, toNat_add_one h, Nat.add_sub_cancel]

namespace Shell

/-- The attempt is under way and waits, with nobody being called; otherwise the shell is as it was in `s`. -/
structure Begun (s t : Shell) (label : String) (task : Task) : Prop where
  session : t.store.session = { s.store.session with attempts := s.store.session.attempts + 1 }
  storage : t.store.storage = s.store.storage
  registry : t.store.registry = s.store.registry
  rounds : t.store.rounds = []
  task : t.task? label = some task

/-- The attempt that began in `s` has come to its result, with nobody being called. -/
structure Ended (s u : Shell) (label : String) (result : Except LoginError Grant) : Prop where
  granted : ∀ g, result = .ok g → u.store.session = ⟨some g.token, s.store.session.attempts, some g.profile⟩ ∧
    u.store.storage.load = some g.token
  failed : ∀ e, result = .error e → u.store.session = s.store.session ∧ u.store.storage = s.store.storage
  registry : u.store.registry = s.store.registry
  rounds : u.store.rounds = []
  task : u.task? label = none

variable {s t : Shell} {label : String} {task : Task} {r : Reply}

private theorem begun_start (hs : s.store.rounds = []) (label : String) (credentials : Credentials) :
    Begun s (s.run (delivered s.store.registry.size (.start label (.attempt credentials)))) label (.token true) := by
  rw [(run_delivered hs rfl).1]
  refine ⟨?_, ?_, ?_, rfl, ?_⟩
  · exact session_step s _
  · exact storage_step s _
  · exact registry_step rfl
  · show (s.step _).1.task? label = _
    simp [task?_step, Job.task]

/-- A grant makes the attempt go on; nobody is told. -/
private theorem Begun.goesOn (h : Begun s t label (.token true)) {token : String} (hr : tokenOf r = .ok token) :
    Begun s (t.run (delivered s.store.registry.size (.reply label r))) label (.profile true token) ∧
      t.calls (delivered s.store.registry.size (.reply label r)) = [] ∧
      t.outcomesOf label (delivered s.store.registry.size (.reply label r)) = [] := by
  have hprogress : t.progress? label r =
      some (.posts (.query t.endpoints (some token) .userProfile) (.profile true token)) := by
    rw [progress?, h.task]
    simp [Task.resume, hr]
  have hmutation : t.mutation? (.reply label r) = none := by
    rw [mutation?, hprogress]
    rfl
  obtain ⟨hrun, hcalls, houtcomes⟩ := run_delivered (e := .reply label r) h.rounds rfl
  rw [h.registry] at hrun hcalls houtcomes
  rw [hrun, hcalls, houtcomes]
  refine ⟨⟨?_, ?_, ?_, rfl, ?_⟩, ?_, ?_⟩
  · rw [← h.session]
    show (t.step _).1.store.session = _
    rw [session_step, hmutation]
    rfl
  · rw [← h.storage]
    show (t.step _).1.store.storage = _
    rw [storage_step, hmutation]
    rfl
  · exact (registry_step rfl).trans h.registry
  · show (t.step _).1.task? label = _
    simp [task?_step, hprogress, Progress.next?]
  · rw [deliveries, hmutation]
  · simp [outcome_step, hprogress, Progress.outcome?]

/-- A reply that ends the attempt: its mutation is delivered to everybody. -/
private theorem Begun.settles (h : Begun s t label task) {p : Progress} (hp : t.progress? label r = some p)
    (hnext : p.next? = none) {m : Mutation} (hm : p.mutation? = some m) :
    let u := t.run (delivered s.store.registry.size (.reply label r))
    u.store.session = t.store.session.apply s.store.storage m ∧ u.store.storage = s.store.storage.apply m ∧
      u.store.registry = s.store.registry ∧ u.store.rounds = [] ∧ u.task? label = none ∧
      t.calls (delivered s.store.registry.size (.reply label r)) =
        s.store.registry.ids.map (⟨·, u.store.snapshot⟩) ∧
      t.outcomesOf label (delivered s.store.registry.size (.reply label r)) = (p.outcome? s.stored).toList := by
  have hmutation : t.mutation? (.reply label r) = some m := by
    rw [mutation?, hp]
    exact hm
  have hstored : t.stored = s.stored := by
    funext token
    rw [stored, stored, h.storage]
  obtain ⟨hrun, hcalls, houtcomes⟩ := run_delivered (e := .reply label r) h.rounds rfl
  rw [h.registry] at hrun hcalls houtcomes
  intro u
  have hu : u = (t.step (.reply label r)).1.hush := hrun
  rw [hu, hcalls, houtcomes]
  refine ⟨?_, ?_, ?_, rfl, ?_, ?_, ?_⟩
  · show (t.step _).1.store.session = _
    rw [session_step, hmutation, h.storage]
    rfl
  · show (t.step _).1.store.storage = _
    rw [storage_step, hmutation, h.storage]
    rfl
  · exact (registry_step rfl).trans h.registry
  · show (t.step _).1.task? label = _
    simp [task?_step, hp, hnext]
  · simp only [deliveries, hmutation]
    rw [h.registry]
    rfl
  · simp [outcome_step, hp, hstored]

/-- A stage fails: the attempt is taken off the count, and nothing else has changed. -/
private theorem Begun.fails (h : Begun s t label task) (hc : s.count + 1 < UInt32.size) {e : LoginError}
    (hp : t.progress? label r = some (Task.failed true e)) :
    let u := t.run (delivered s.store.registry.size (.reply label r))
    Ended s u label (.error e) ∧
      t.calls (delivered s.store.registry.size (.reply label r)) = s.store.registry.ids.map (⟨·, u.store.snapshot⟩) ∧
      t.outcomesOf label (delivered s.store.registry.size (.reply label r)) = [.attempted (.error e)] := by
  intro u
  obtain ⟨hsession, hstorage, hregistry, hrounds, htask, hcalls, houtcomes⟩ := h.settles hp rfl rfl
  refine ⟨⟨by simp, ?_, hregistry, hrounds, htask⟩, hcalls, houtcomes⟩
  rintro e -
  refine ⟨?_, hstorage⟩
  rw [hsession, h.session, Session.apply, Session.fewerAttempts_add_one hc]

/-- All stages but the storage have succeeded, and that decides. -/
private theorem Begun.commits (h : Begun s t label task) (hc : s.count + 1 < UInt32.size) {g : Grant}
    (hp : t.progress? label r = some (.commits g)) {result : Except LoginError Grant}
    (hresult : result = match s.stored g.token with
      | .ok () => .ok g
      | .error e => .error (.storage e)) :
    let u := t.run (delivered s.store.registry.size (.reply label r))
    Ended s u label result ∧
      t.calls (delivered s.store.registry.size (.reply label r)) = s.store.registry.ids.map (⟨·, u.store.snapshot⟩) ∧
      t.outcomesOf label (delivered s.store.registry.size (.reply label r)) =
        [.attempted (result.map fun _ => ())] := by
  intro u
  obtain ⟨hsession, hstorage, hregistry, hrounds, htask, hcalls, houtcomes⟩ := h.settles hp rfl rfl
  have hfewer := Session.fewerAttempts_add_one (n := s.store.session.attempts) hc
  cases hstored : s.store.storage.outcome (.save g.token) with
  | ok _ =>
    have hok : s.stored g.token = .ok () := hstored
    rw [hok] at hresult
    subst hresult
    refine ⟨⟨?_, by simp, hregistry, hrounds, htask⟩, hcalls, ?_⟩
    · rintro g' hg
      obtain rfl := Except.ok.inj hg
      refine ⟨?_, ?_⟩
      · rw [hsession, h.session, Session.apply]
        simp only [hstored, hfewer]
      · rw [hstorage]
        exact Storage.load_change_save hstored
    · rw [houtcomes]
      simp only [Progress.outcome?, hok]
      rfl
  | error e =>
    have herror : s.stored g.token = .error e := hstored
    rw [herror] at hresult
    subst hresult
    refine ⟨⟨by simp, ?_, hregistry, hrounds, htask⟩, hcalls, ?_⟩
    · rintro e' -
      refine ⟨?_, ?_⟩
      · rw [hsession, h.session, Session.apply]
        simp only [hstored, hfewer]
      · rw [hstorage]
        exact Storage.change_save_of_error hstored
    · rw [houtcomes]
      simp only [Progress.outcome?, herror]
      rfl

/-- After the end of the attempt, nobody waits for a reply. -/
private theorem Ended.ignores {u : Shell} {result : Except LoginError Grant} (h : Ended s u label result) (r : Reply) :
    u.run (delivered s.store.registry.size (.reply label r)) = u ∧
      u.calls (delivered s.store.registry.size (.reply label r)) = [] ∧
      u.outcomesOf label (delivered s.store.registry.size (.reply label r)) = [] := by
  have hstep : u.step (.reply label r) = (u, {}) := by simp [step, reply, h.task]
  obtain ⟨hrun, hcalls, houtcomes⟩ := run_delivered (e := .reply label r) h.rounds rfl
  rw [h.registry] at hrun hcalls houtcomes
  rw [hrun, hcalls, houtcomes, hstep]
  refine ⟨hush_of_rounds_nil h.rounds, ?_, rfl⟩
  simp [deliveries, mutation?, progress?, h.task]

/-- An attempt with nothing else going on: its start, a first and a second reply, each with the return of all observers
that are called for it. A reply that nobody waits for does nothing. -/
def loneAttempt (observers : Nat) (label : String) (credentials : Credentials) (first second : Reply) : List Event :=
  delivered observers (.start label (.attempt credentials)) ++
    (delivered observers (.reply label first) ++ delivered observers (.reply label second))

private theorem calls_start (hs : s.store.rounds = []) (hc : s.count + 1 < UInt32.size) (label : String)
    (credentials : Credentials) : s.calls (delivered s.store.registry.size (.start label (.attempt credentials))) =
      s.store.registry.ids.map (⟨·, { s.store.snapshot with authenticating := true }⟩) := by
  have hpos : 0 < s.store.session.attempts + 1 := by
    rw [UInt32.lt_iff_toNat_lt, toNat_add_one hc]
    exact Nat.succ_pos _
  have hsnapshot : (s.step (.start label (.attempt credentials))).1.store.snapshot =
      { s.store.snapshot with authenticating := true } := by
    rw [Store.snapshot, session_step]
    simp [mutation?, Job.opening, Session.apply, Session.snapshot, Store.snapshot, hpos]
  rw [(run_delivered hs rfl).2.1, deliveries, hsnapshot]
  rfl

private theorem ended_loneAttempt (hs : s.store.rounds = []) (hc : s.count + 1 < UInt32.size) (label : String)
    (credentials : Credentials) (first second : Reply) :
    let es := loneAttempt s.store.registry.size label credentials first second
    let result := attemptResult s.stored first second
    Ended s (s.run es) label result ∧ s.outcomesOf label es = [.attempted (result.map fun _ => ())] ∧
      s.calls es = s.store.registry.ids.map (⟨·, { s.store.snapshot with authenticating := true }⟩) ++
        s.store.registry.ids.map (⟨·, (s.run es).store.snapshot⟩) := by
  intro es result
  have hbegun := begun_start hs label credentials
  have houtcome : s.outcomesOf label (delivered s.store.registry.size (.start label (.attempt credentials))) = [] :=
    (run_delivered hs rfl).2.2
  simp only [es, loneAttempt, run_append, calls_append, outcomesOf_append, calls_start hs hc, houtcome, List.nil_append]
  generalize s.run (delivered s.store.registry.size (.start label (.attempt credentials))) = t at hbegun
  have hprogress : t.progress? label first = some (match tokenOf first with
      | .error e => Task.failed true e
      | .ok token => .posts (.query t.endpoints (some token) .userProfile) (.profile true token)) := by
    rw [progress?, hbegun.task]
    rfl
  cases htoken : tokenOf first with
  | error e =>
    have hresult : result = .error e := by simp only [result, attemptResult, htoken]
    rw [htoken] at hprogress
    obtain ⟨hended, hcalls, houtcomes⟩ := hbegun.fails hc hprogress
    obtain ⟨hrun', hcalls', houtcomes'⟩ := hended.ignores second
    rw [hrun', hcalls', houtcomes', hcalls, houtcomes, List.append_nil, List.append_nil, hresult]
    exact ⟨hended, rfl, rfl⟩
  | ok token =>
    obtain ⟨hgoes, hcalls, houtcomes⟩ := hbegun.goesOn htoken
    rw [hcalls, houtcomes, List.nil_append, List.nil_append]
    generalize t.run (delivered s.store.registry.size (.reply label first)) = u at hgoes
    have hlast : u.progress? label second = some (match profileOf second with
        | .error e => Task.failed true (.profile e)
        | .ok p => .commits ⟨token, p⟩) := by
      rw [progress?, hgoes.task]
      rfl
    cases hp : profileOf second with
    | error e =>
      have hresult : result = .error (.profile e) := by simp only [result, attemptResult, htoken, hp]
      rw [hp] at hlast
      obtain ⟨hended, hcalls', houtcomes'⟩ := hgoes.fails hc hlast
      rw [hcalls', houtcomes', hresult]
      exact ⟨hended, rfl, rfl⟩
    | ok p =>
      rw [hp] at hlast
      have hresult : result = match s.stored token with
          | .ok () => .ok ⟨token, p⟩
          | .error e => .error (.storage e) := by
        simp only [result, attemptResult, htoken, hp]
        cases s.stored token <;> rfl
      obtain ⟨hended, hcalls', houtcomes'⟩ := hgoes.commits hc hlast hresult
      rw [hcalls', houtcomes']
      exact ⟨hended, rfl, rfl⟩

/-- An attempt succeeds if the first reply grants a token, the second one brings a profile, and the storage accepts the
token; then session and storage hold them. Otherwise it comes to the failure of the first stage that fails, and session
and storage are as they were before. In any case the count of attempts is what it was, no task is left, and every
observer has been told twice: of the attempt, while nothing else has changed, and of what the attempt has come to. -/
theorem lone_attempt_settles {s : Shell} (hs : s.store.rounds = []) (hc : s.count + 1 < UInt32.size) (label : String)
    (credentials : Credentials) (first second : Reply) :
    let es := loneAttempt s.store.registry.size label credentials first second
    let now := s.run es
    (∃ result, s.outcomesOf label es = [.attempted result] ∧
      (result = .ok () ↔ ∃ token p, Grants first token ∧ Tells second p ∧ s.stored token = .ok ()) ∧
      ∀ e, result = .error e ↔ FirstFailure s.stored first second e) ∧
    (∀ token p, Grants first token → Tells second p → s.stored token = .ok () →
      now.store.session = ⟨some token, s.store.session.attempts, some p⟩ ∧ now.store.storage.load = some token) ∧
    (∀ e, FirstFailure s.stored first second e →
      now.store.session = s.store.session ∧ now.store.storage = s.store.storage) ∧
    now.count = s.count ∧ now.task? label = none ∧ now.store.rounds = [] ∧
    s.calls es = s.store.registry.ids.map (⟨·, { s.store.snapshot with authenticating := true }⟩) ++
      s.store.registry.ids.map (⟨·, now.store.snapshot⟩) := by
  intro es now
  obtain ⟨hended, houtcomes, hcalls⟩ := ended_loneAttempt hs hc label credentials first second
  refine ⟨⟨_, houtcomes, ?_, ?_⟩, ?_, ?_, ?_, hended.task, hended.rounds, hcalls⟩
  · constructor
    · intro hok
      cases hresult : attemptResult s.stored first second with
      | ok g => exact ⟨g.token, g.profile, attemptResult_eq_ok_iff.1 hresult⟩
      | error e => simp [hresult, Except.map] at hok
    · rintro ⟨token, p, h⟩
      have hresult : attemptResult s.stored first second = .ok ⟨token, p⟩ := attemptResult_eq_ok_iff.2 h
      rw [hresult]
      rfl
  · intro e
    rw [← attemptResult_eq_error_iff]
    cases attemptResult s.stored first second <;> simp [Except.map]
  · intro token p hfirst hsecond hstored
    exact hended.granted ⟨token, p⟩ (attemptResult_eq_ok_iff.2 ⟨hfirst, hsecond, hstored⟩)
  · intro e h
    exact hended.failed e (attemptResult_eq_error_iff.2 h)
  · cases hresult : attemptResult s.stored first second with
    | ok g => rw [count, (hended.granted g hresult).1, count]
    | error e => rw [count, (hended.failed e hresult).1, count]

/-- A restored session with one observer, under way with another attempt: it takes token and profile over. If the
register has become read-only, if the first reply has something behind the token, or if the second one has null for a
profile, the attempt comes to the failure of that stage, and the session stays what it was. -/
theorem renewed_unless_locked :
    let granted : Reply := .response ⟨200, "[\"t\"]"⟩
    let profile : Reply := .response ⟨200, "\x7b\"data\":\x7b\"userProfile\":[\"a\"]\x7d\x7d"⟩
    let overfull : Reply := .response ⟨200, "[\"t\",1]"⟩
    let nobody : Reply := .response ⟨200, "\x7b\"data\":\x7b\"userProfile\":null\x7d\x7d"⟩
    let s := (new (.register (.holding "token" (some "old"))) ⟨"/query", "/login"⟩).run
      [.move (.issue .subscribe), .move (.issue (.mutate .restore)), .move .proceed,
        .start "other" (.attempt ⟨"b", "2"⟩), .move .proceed]
    let locked := (s.step (.move (.issue (.change (.setReadOnly true))))).1
    let attempt := loneAttempt s.store.registry.size "login" ⟨"a", "1"⟩
    let es := attempt granted profile
    s.store.rounds = [] ∧ s.count = 1 ∧ (s.run es).store.session = ⟨some "t", 1, some ⟨"a"⟩⟩ ∧
      (s.run es).store.storage.load = some "t" ∧ (s.run es).count = 1 ∧
      (s.calls es).map (·.state) = [⟨true, true, none⟩, ⟨true, true, some ⟨"a"⟩⟩] ∧
      locked.outcomesOf "login" es = [.attempted (.error (.storage (.rejected "token" .write)))] ∧
      (locked.run es).store.session = ⟨some "old", 1, none⟩ ∧
      (locked.run es).store.storage = locked.store.storage ∧
      s.outcomesOf "login" (attempt overfull profile) = [.attempted (.error (.decode .malformed))] ∧
      (s.run (attempt overfull profile)).store.session = ⟨some "old", 1, none⟩ ∧
      s.outcomesOf "login" (attempt granted nobody) = [.attempted (.error (.profile (.decode .noProfile)))] ∧
      (s.run (attempt granted nobody)).store.session = ⟨some "old", 1, none⟩ := by
  intro granted profile overfull nobody s locked attempt es
  have hs : s.store.rounds = [] := by cbv
  have hcount : s.count = 1 := by cbv
  have hids : s.store.registry.ids = [0] := by cbv
  have hbefore : s.store.snapshot = ⟨true, true, none⟩ := by cbv
  have hold : s.store.session = ⟨some "old", 1, none⟩ := by cbv
  have hgrants : Grants granted "t" := ⟨_, rfl, rfl, by cbv⟩
  have htells : Tells profile ⟨"a"⟩ :=
    ⟨_, .object [("userProfile", .array [.text "a"])], rfl, by cbv,
      profileOfData_eq_ok_iff.2 ⟨_, .member rfl, .item _⟩⟩
  have hstored : s.stored "t" = .ok () := by cbv
  have hrefused : locked.stored "t" = .error (.rejected "token" .write) := by cbv
  have hunreadable : FirstFailure s.stored overfull profile (.decode .malformed) := .unreadable _ rfl (by cbv)
  have hnobody : FirstFailure s.stored granted nobody (.profile (.decode .noProfile)) :=
    .noProfile hgrants (by cbv : interpret ⟨200, _⟩ = .ok (.object [("userProfile", .null)]))
      (profileOfData_eq_noProfile_iff.2 (.inl (.member rfl)))
  -- an attempt that fails comes to its failure, and the session is left alone
  have hfails (first second : Reply) (e : LoginError) (h : FirstFailure s.stored first second e) :
      s.outcomesOf "login" (attempt first second) = [.attempted (.error e)] ∧
        (s.run (attempt first second)).store.session = s.store.session := by
    obtain ⟨⟨result, houtcomes, -, hresult⟩, -, hkept, -⟩ :=
      lone_attempt_settles hs (by rw [hcount]; decide) "login" ⟨"a", "1"⟩ first second
    rw [(hresult e).2 h] at houtcomes
    exact ⟨houtcomes, (hkept e h).1⟩
  obtain ⟨-, hgranted, -, hkept, -, -, hcalls⟩ :=
    lone_attempt_settles hs (by rw [hcount]; decide) "login" ⟨"a", "1"⟩ granted profile
  obtain ⟨⟨result, houtcomes, -, hresult⟩, -, hfailed, -⟩ :=
    lone_attempt_settles (s := locked) (by cbv) (by decide) "login" ⟨"a", "1"⟩ granted profile
  have hfailure : FirstFailure locked.stored granted profile (.storage (.rejected "token" .write)) :=
    .unsaved hgrants htells hrefused
  obtain ⟨hsession, hload⟩ := hgranted "t" ⟨"a"⟩ hgrants htells hstored
  obtain ⟨hsession', hstorage'⟩ := hfailed _ hfailure
  rw [(hresult _).2 hfailure] at houtcomes
  have hattempts : s.store.session.attempts = 1 := by rw [hold]
  rw [hattempts] at hsession
  have hafter : (s.run es).store.snapshot = ⟨true, true, some ⟨"a"⟩⟩ := congrArg Session.snapshot hsession
  rw [hafter, hids, hbefore] at hcalls
  have hstates := congrArg (List.map (·.state)) hcalls
  obtain ⟨hmalformed, hsame⟩ := hfails _ _ _ hunreadable
  obtain ⟨hmissing, hsame'⟩ := hfails _ _ _ hnobody
  exact ⟨hs, hcount, hsession, hload, hkept.trans hcount, hstates, houtcomes, hsession', hstorage', hmalformed,
    hsame.trans hold, hmissing, hsame'.trans hold⟩

end Shell

end ConsoleShell
