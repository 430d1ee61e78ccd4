import ConsoleShell.Proofs.ShellSteps
import Mathlib

/-!
# Which requests are posted

A job that asks posts one request, with the token that the session holds when the job starts, and answers with what the
first reply says. A login posts the credentials without a token, and asks for the profile exactly if the first reply
grants a token, with that token. What happens to the session in the meantime, and every further reply, is nothing to
them.

* `posts_running`, `outcomes_running`: what is still to come from a task that waits, whatever goes on around it.
* `grantedToken?_eq_some_iff`: which replies grant a token.
* `request_discipline`: all requests of a job from its start on, and the answer of one that asks.
-/

namespace ConsoleShell

open Json

/-- The token that a reply to a login grants. -/
def grantedToken? : Reply → Option String
  | .response r => if r.status = okStatus then decodeToken? r.body else none
  | .failed _ => none

theorem tokenOf_eq_ok_iff {r : Reply} {t : String} : tokenOf r = .ok t ↔ grantedToken? r = some t := by
  cases r with
  | failed cause => simp [tokenOf, grantedToken?]
  | response x =>
    rw [tokenOf, grantedToken?]
    by_cases hstatus : x.status = okStatus
    · rw [if_neg (not_not_intro hstatus), if_pos hstatus]
      cases decodeToken? x.body <;> simp
    · rw [if_pos hstatus, if_neg hstatus]
      simp

theorem grantedToken?_eq_some_iff {r : Reply} {token : String} : grantedToken? r = some token ↔
    ∃ x t, r = .response x ∧ x.status = 200 ∧ Tree.parse? x.body = some t ∧ Tree.TextRecord "token" token t := by
  cases r with
  | failed cause => simp [grantedToken?]
  | response x =>
    by_cases hstatus : x.status = 200 <;> simp [grantedToken?, okStatus, hstatus, decodeToken?_eq_some_iff]

/-- Data brought into a shape; a value is taken as it is. -/
def Shape.fit : Shape → Json → Except QueryError Decoded
  | .value, v => .ok (.value v)
  | shape, v =>
    match shape.decode? v with
    | some d => .ok d
    | none => .error (.decode .malformed)

private theorem decodedOf_eq_bind (shape : Shape) (r : Reply) : decodedOf shape r = (dataOf r).bind shape.fit := by
  rw [decodedOf]
  cases dataOf r with
  | error e => rfl
  | ok data => cases shape <;> rfl

theorem profileOf_eq_bind (r : Reply) : profileOf r = (dataOf r).bind profileOfData := by
  rw [profileOf]
  cases dataOf r <;> rfl

namespace Task

/-- The token that a reply grants to the task, if it waits for one. -/
def grant? : Task → Reply → Option String
  | .token _, r => grantedToken? r
  | _, _ => none

def answer? : Task → Option (Reply → Outcome)
  | .query shape => some fun r => .data (decodedOf shape r)
  | .refresh _ => some fun r => .refreshed (profileOf r)
  | .token _ | .profile .. => none

variable (task : Task) (endpoints : Endpoints) (held : Option String) (r : Reply)

/-- Only a grant is followed by another request. -/
private theorem post?_resume : (task.resume endpoints held r).post? =
    (task.grant? r).map fun t => .query endpoints (some t) .userProfile := by
  cases task with
  | query shape => rfl
  | refresh sentWith =>
    simp only [resume, grant?]
    cases profileOf r <;> rfl
  | token signIn =>
    simp only [resume, grant?]
    cases ht : tokenOf r with
    | ok t =>
      rw [tokenOf_eq_ok_iff.1 ht]
      rfl
    | error e =>
      have hnone : grantedToken? r = none := by
        rw [Option.eq_none_iff_forall_not_mem]
        intro t hmem
        rw [tokenOf_eq_ok_iff.2 hmem] at ht
        cases ht
      rw [hnone]
      cases signIn <;> rfl
  | profile signIn t =>
    simp only [resume, grant?]
    cases profileOf r <;> cases signIn <;> rfl

/-- The task that goes on is past its grant. -/
private theorem grant?_of_next? {task next : Task} {endpoints : Endpoints} {held : Option String} {r : Reply}
    (h : (task.resume endpoints held r).next? = some next) (q : Reply) : next.grant? q = none := by
  obtain ⟨signIn, t, -, -, rfl, -⟩ := eq_of_next? h
  rfl

/-- A task that asks ends with the first reply. -/
private theorem ends_of_answer? {task : Task} {f : Reply → Outcome} (h : task.answer? = some f) (endpoints : Endpoints)
    (held : Option String) (r : Reply) : ∃ m, task.resume endpoints held r = .ends m (f r) := by
  cases task with
  | query shape =>
    obtain rfl := Option.some.inj h
    exact ⟨none, rfl⟩
  | refresh sentWith =>
    obtain rfl := Option.some.inj h
    simp only [resume]
    cases profileOf r with
    | error e => exact ⟨none, rfl⟩
    | ok p => exact ⟨_, rfl⟩
  | token signIn => simp [answer?] at h
  | profile signIn t => simp [answer?] at h

end Task

namespace Shell

/-- The task under the label goes, or has to make way for another. -/
def Event.displaces (label : String) : Event → Bool
  | .start l _ | .drop l => l = label
  | _ => false

def Event.replyTo? (label : String) : Event → Option Reply
  | .reply l r => if l = label then some r else none
  | _ => none

/-- The events before the next job under the label. -/
def stint (label : String) (es : List Event) : List Event := es.takeWhile fun e => !e.starts label

/-- The replies under the label while its task can hear them. -/
def heard (label : String) (es : List Event) : List Reply :=
  (es.takeWhile fun e => !e.displaces label).filterMap (·.replyTo? label)

def entriesOf (s : Shell) (label : String) (es : List Event) : List Entry :=
  (s.entries es).filter fun x => x.event.label? = some label

def postsOf (s : Shell) (label : String) (es : List Event) : List Post := (s.entriesOf label es).filterMap (·.post)

def outcomesOf (s : Shell) (label : String) (es : List Event) : List Outcome :=
  (s.entriesOf label es).filterMap (·.outcome)

variable {s : Shell} {label : String} {e : Event} {es : List Event}

private theorem entriesOf_cons (s : Shell) (label : String) (e : Event) (es : List Event) :
    s.entriesOf label (e :: es) =
      if e.label? = some label then s.entry e :: (s.step e).1.entriesOf label es
      else (s.step e).1.entriesOf label es := by
  simp only [entriesOf, entries, List.filter_cons, decide_eq_true_eq]
  rfl

private theorem postsOf_cons (s : Shell) (label : String) (e : Event) (es : List Event) : s.postsOf label (e :: es) =
    (if e.label? = some label then (s.step e).2.post.toList else []) ++ (s.step e).1.postsOf label es := by
  rw [postsOf, entriesOf_cons]
  split
  · rw [List.filterMap_cons, entry]
    cases (s.step e).2.post <;> rfl
  · rfl

theorem outcomesOf_cons (s : Shell) (label : String) (e : Event) (es : List Event) : s.outcomesOf label (e :: es) =
    (if e.label? = some label then (s.step e).2.outcome.toList else []) ++ (s.step e).1.outcomesOf label es := by
  rw [outcomesOf, entriesOf_cons]
  split
  · rw [List.filterMap_cons, entry]
    cases (s.step e).2.outcome <;> rfl
  · rfl

private theorem not_starts_of_label?_ne (h : e.label? ≠ some label) : e.starts label = false := by
  cases e with
  | start l job => simpa [Event.starts, Event.label?] using h
  | _ => rfl

private theorem heard_cons_of_ne (h : e.label? ≠ some label) : heard label (e :: es) = heard label es := by
  have hdisplaces : e.displaces label = false := by
    cases e with
    | start l job => simpa [Event.displaces, Event.label?] using h
    | drop l => simpa [Event.displaces, Event.label?] using h
    | _ => rfl
  have hreply : e.replyTo? label = none := by
    cases e with
    | reply l r => simpa [Event.replyTo?, Event.label?] using h
    | _ => rfl
  rw [heard, List.takeWhile_cons_of_pos (by simp [hdisplaces]), List.filterMap_cons_none hreply, heard]

private theorem heard_reply (r : Reply) : heard label (.reply label r :: es) = r :: heard label es := by
  have hreply : (Event.reply label r).replyTo? label = some r := if_pos rfl
  rw [heard, List.takeWhile_cons_of_pos rfl, List.filterMap_cons_some hreply, heard]

private theorem heard_of_displaces (h : e.displaces label = true) : heard label (e :: es) = [] := by
  rw [heard, List.takeWhile_cons_of_neg (by simp [h])]
  rfl

private theorem stint_cons (h : e.starts label = false) : stint label (e :: es) = e :: stint label es :=
  List.takeWhile_cons_of_pos (by simp [h])

private theorem stint_start (job : Job) : stint label (.start label job :: es) = [] :=
  List.takeWhile_cons_of_neg (by simp [Event.starts])

/-! ### What is still to come from a task -/

/-- Until the next job, at most one request is posted under a label: on the first reply, and if that is a grant. -/
theorem posts_running (s : Shell) (label : String) (es : List Event) : s.postsOf label (stint label es) =
    ((s.task? label).bind fun task => (heard label es).head?.bind task.grant?).toList.map
      fun t => .query s.endpoints (some t) .userProfile := by
  induction es generalizing s with
  | nil => cases s.task? label <;> rfl
  | cons e es ih =>
    by_cases hl : e.label? = some label
    · rcases Event.cases_of_label? hl with ⟨job, rfl⟩ | ⟨r, rfl⟩ | rfl
      · rw [stint_start, heard_of_displaces (by simp [Event.displaces])]
        cases s.task? label <;> rfl
      · have hnext : (s.step (.reply label r)).1.task? label = (s.progress? label r).bind (·.next?) := by
          simp [task?_step]
        rw [stint_cons rfl, heard_reply, postsOf_cons, if_pos hl, post_step, ih, hnext]
        cases ht : s.task? label with
        | none => simp [progress?, ht]
        | some task =>
          simp only [progress?, ht, Option.map_some, Option.bind_some, Task.post?_resume, List.head?_cons]
          -- whoever goes on waiting asks for nothing more
          have hrest : (((task.resume s.endpoints s.store.session.token r).next?).bind fun next =>
              (heard label es).head?.bind next.grant?) = none := by
            cases hn : (task.resume s.endpoints s.store.session.token r).next? with
            | none => rfl
            | some next =>
              cases (heard label es).head? with
              | none => rfl
              | some q => exact Task.grant?_of_next? hn q
          rw [hrest]
          cases task.grant? r <;> rfl
      · have hgone : (s.step (.drop label)).1.task? label = none := by simp [task?_step]
        rw [stint_cons rfl, postsOf_cons, if_pos hl, post_step, ih, hgone,
          heard_of_displaces (by simp [Event.displaces])]
        cases s.task? label <;> rfl
    · rw [stint_cons (not_starts_of_label?_ne hl), heard_cons_of_ne hl, postsOf_cons, if_neg hl, ih,
        task?_step_of_ne hl, endpoints_step, List.nil_append]

private theorem outcomes_of_no_task (h : s.task? label = none) : s.outcomesOf label (stint label es) = [] := by
  induction es generalizing s with
  | nil => rfl
  | cons e es ih =>
    by_cases hl : e.label? = some label
    · rcases Event.cases_of_label? hl with ⟨job, rfl⟩ | ⟨r, rfl⟩ | rfl
      · rw [stint_start]
        rfl
      · have hnone : s.progress? label r = none := by rw [progress?, h, Option.map_none]
        have hsilent : (s.step (.reply label r)).2.outcome = none := by simp [outcome_step, hnone]
        rw [stint_cons rfl, outcomesOf_cons, if_pos hl, hsilent, ih (by simp [task?_step, hnone])]
        rfl
      · rw [stint_cons rfl, outcomesOf_cons, if_pos hl, outcome_step, ih (by simp [task?_step])]
        rfl
    · rw [stint_cons (not_starts_of_label?_ne hl), outcomesOf_cons, if_neg hl, List.nil_append]
      exact ih (by rw [task?_step_of_ne hl, h])

/-- A task that asks gives one answer, to the first reply that it hears. -/
theorem outcomes_running {task : Task} {f : Reply → Outcome} (ht : s.task? label = some task)
    (hf : task.answer? = some f) :
    s.outcomesOf label (stint label es) = (heard label es).head?.toList.map f := by
  induction es generalizing s with
  | nil => rfl
  | cons e es ih =>
    by_cases hl : e.label? = some label
    · rcases Event.cases_of_label? hl with ⟨job, rfl⟩ | ⟨r, rfl⟩ | rfl
      · rw [stint_start, heard_of_displaces (by simp [Event.displaces])]
        rfl
      · obtain ⟨m, hends⟩ := Task.ends_of_answer? hf s.endpoints s.store.session.token r
        have hprogress : s.progress? label r = some (.ends m (f r)) := by rw [progress?, ht, Option.map_some, hends]
        have hanswer : (s.step (.reply label r)).2.outcome = some (f r) := by
          simp [outcome_step, hprogress, Progress.outcome?]
        have hgone : (s.step (.reply label r)).1.task? label = none := by
          simp [task?_step, hprogress, Progress.next?]
        rw [stint_cons rfl, heard_reply, outcomesOf_cons, if_pos hl, hanswer, outcomes_of_no_task hgone]
        rfl
      · have hgone : (s.step (.drop label)).1.task? label = none := by simp [task?_step]
        rw [stint_cons rfl, outcomesOf_cons, if_pos hl, outcome_step, outcomes_of_no_task hgone,
          heard_of_displaces (by simp [Event.displaces])]
        rfl
    · rw [stint_cons (not_starts_of_label?_ne hl), heard_cons_of_ne hl, outcomesOf_cons, if_neg hl, List.nil_append]
      exact ih (by rw [task?_step_of_ne hl, ht])

/-! ### From the start of a job -/

/-- The requests of a job, from its start until the next job under its label. -/
def postsFrom (s : Shell) (label : String) (job : Job) (es : List Event) : List Post :=
  s.postsOf label (.start label job :: stint label es)

def outcomesFrom (s : Shell) (label : String) (job : Job) (es : List Event) : List Outcome :=
  s.outcomesOf label (.start label job :: stint label es)

private theorem task?_start (s : Shell) (label : String) (job : Job) :
    (s.step (.start label job)).1.task? label = some (job.task s.store.session.token) := by
  simp [task?_step]

private theorem postsFrom_eq (s : Shell) (label : String) (job : Job) (es : List Event) : s.postsFrom label job es =
    job.post s.endpoints s.store.session.token ::
      ((heard label es).head?.bind (job.task s.store.session.token).grant?).toList.map
        fun t => .query s.endpoints (some t) .userProfile := by
  have hl : (Event.start label job).label? = some label := rfl
  rw [postsFrom, postsOf_cons, if_pos hl, post_step, posts_running, task?_start, endpoints_step]
  rfl

private theorem outcomesFrom_eq {s : Shell} {job : Job} {f : Reply → Outcome}
    (hf : (job.task s.store.session.token).answer? = some f) (label : String) (es : List Event) :
    s.outcomesFrom label job es = (heard label es).head?.toList.map f := by
  have hl : (Event.start label job).label? = some label := rfl
  rw [outcomesFrom, outcomesOf_cons, if_pos hl, outcome_step, outcomes_running (task?_start s label job) hf]
  rfl

/-- In any shell and whatever happens after the start: a job that asks posts one request, with its query and the token
held at the start, and its answer is read off the first reply alone; a login posts the credentials without a token and,
exactly if the first reply has status 200 and decodes to a token, one request for the profile with that token. Nothing
else is posted, and nothing is posted but for a job. -/
theorem request_discipline (s : Shell) (label : String) (es : List Event) :
    (∀ request shape,
      s.postsFrom label (.query request shape) es =
        [⟨s.endpoints.graphql, s.store.session.token,
          .object [("query", .text request.query), ("variables", .object request.vars)]⟩] ∧
      s.outcomesFrom label (.query request shape) es = (heard label es).head?.toList.map fun
        | .response x => .data ((interpret x).bind shape.fit)
        | .failed cause => .data (.error (.transport cause))) ∧
    (s.postsFrom label .refresh es =
        [⟨s.endpoints.graphql, s.store.session.token, Request.userProfile.toJson⟩] ∧
      s.outcomesFrom label .refresh es = (heard label es).head?.toList.map fun
        | .response x => .refreshed ((interpret x).bind profileOfData)
        | .failed cause => .refreshed (.error (.transport cause))) ∧
    (∀ (credentials : Credentials) (signIn : Bool),
      s.postsFrom label (if signIn then .attempt credentials else .authenticate credentials) es =
        ⟨s.endpoints.login, none,
          .object [("email", .text credentials.email), ("password", .text credentials.password)]⟩ ::
        ((heard label es).head?.bind grantedToken?).toList.map fun t =>
          ⟨s.endpoints.graphql, some t, Request.userProfile.toJson⟩) ∧
    ∀ m, (s.step (.move m)).2.post = none := by
  refine ⟨fun request shape => ⟨?_, ?_⟩, ⟨?_, ?_⟩, ?_, fun m => post_step s (.move m)⟩
  · rw [postsFrom_eq]
    cases (heard label es).head? <;> rfl
  · rw [outcomesFrom_eq rfl]
    refine List.map_congr_left fun r _ => ?_
    rw [decodedOf_eq_bind]
    cases r <;> rfl
  · rw [postsFrom_eq]
    cases (heard label es).head? <;> rfl
  · rw [outcomesFrom_eq rfl]
    refine List.map_congr_left fun r _ => ?_
    rw [profileOf_eq_bind]
    cases r <;> rfl
  · intro credentials signIn
    rw [postsFrom_eq]
    cases signIn <;> rfl

/-- In a session that holds a token already. A login that is granted one asks for the profile with the token granted,
and hears no second grant; one whose reply of status 200 names the token twice, or has another status, asks for nothing.
A refresh goes out with the token held, and data without a profile answer it with an error. -/
theorem profile_asked_for_if_granted :
    let s := (new (.register (.holding "token" (some "old"))) ⟨"/query", "/login"⟩).run
      [.move (.issue (.mutate .restore))]
    let granted : Response := ⟨200, "\x7b\"user\":1,\"token\":\"t\",\"user\":2\x7d"⟩
    let twice : Response := ⟨200, "\x7b\"token\":\"t\",\"token\":\"t\"\x7d"⟩
    let created : Response := ⟨201, "[\"t\"]"⟩
    let missing : Response := ⟨200, "\x7b\"data\":\x7b\"user\":[\"a\"]\x7d\x7d"⟩
    let heardAs (label : String) (first : Response) : List Event :=
      [.reply label (.response first), .reply label (.response granted)]
    let login : Post := ⟨"/login", none, .object [("email", .text "a"), ("password", .text "1")]⟩
    let profile (token : String) : Post := ⟨"/query", some token, Request.userProfile.toJson⟩
    s.store.session.token = some "old" ∧
      s.postsFrom "login" (.attempt ⟨"a", "1"⟩) (heardAs "login" granted) = [login, profile "t"] ∧
      s.postsFrom "login" (.attempt ⟨"a", "1"⟩) (heardAs "login" twice) = [login] ∧
      s.postsFrom "login" (.authenticate ⟨"a", "1"⟩) (heardAs "login" created) = [login] ∧
      s.postsFrom "again" .refresh (heardAs "again" missing) = [profile "old"] ∧
      s.outcomesFrom "again" .refresh (heardAs "again" missing) = [.refreshed (.error (.decode .noProfile))] := by
  intro s granted twice created missing heardAs login profile
  have hheld : s.store.session.token = some "old" := by cbv
  have hgranted : grantedToken? (.response granted) = some "t" := by
    let members : List (Option String × Tree) :=
      [(some "user", .number (some (.int 1))), (some "token", .text (some "t")), (some "user", .number (some (.int 2)))]
    have hparse : Tree.parse? granted.body = some (.object members) := by cbv
    have hnames : ∀ m ∈ members, m.1.isSome := by simp [members]
    exact grantedToken?_eq_some_iff.2 ⟨granted, _, rfl, rfl, hparse, .object hnames (by cbv)⟩
  have htwice : grantedToken? (.response twice) = none := by
    let members : List (Option String × Tree) := [(some "token", .text (some "t")), (some "token", .text (some "t"))]
    have hparse : Tree.parse? twice.body = some (.object members) := by cbv
    refine Option.eq_none_iff_forall_ne_some.2 fun token h => ?_
    obtain ⟨x, t, hx, -, ht, hrecord⟩ := grantedToken?_eq_some_iff.1 h
    obtain rfl := Reply.response.inj hx
    rw [hparse] at ht
    obtain rfl := Option.some.inj ht
    cases hrecord with
    | object _ honce => simp [members, Tree.named] at honce
  have hmissing : (interpret missing).bind profileOfData = .error (.decode .noProfile) := by
    let members : Members := [("user", .array [.text "a"])]
    have hdata : interpret missing = .ok (.object members) := by cbv
    rw [hdata]
    exact profileOfData_eq_noProfile_iff.2 (.inr ⟨members, rfl, by decide⟩)
  have hlogin (es : List Event) (signIn : Bool) := (request_discipline s "login" es).2.2.1 ⟨"a", "1"⟩ signIn
  obtain ⟨-, ⟨hpost, hanswer⟩, -⟩ := request_discipline s "again" (heardAs "again" missing)
  refine ⟨hheld, ?_, ?_, ?_, ?_, ?_⟩
  · refine (hlogin _ true).trans ?_
    rw [heard_reply, List.head?_cons, Option.bind_some, hgranted]
    rfl
  · refine (hlogin _ true).trans ?_
    rw [heard_reply, List.head?_cons, Option.bind_some, htwice]
    rfl
  · -- no token of another status than 200
    refine (hlogin _ false).trans ?_
    rw [heard_reply]
    rfl
  · rw [hpost, hheld]
    rfl
  · rw [hanswer, heard_reply]
    simp only [List.head?_cons, Option.toList_some, List.map_cons, List.map_nil, hmissing]

end Shell

end ConsoleShell
