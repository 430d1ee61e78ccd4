import ConsoleShell.Shell

/-!
# What an event does to a shell

An event carries out at most one mutation of the session (`mutation?`), changes the storage only through that
mutation or through a direct change, and touches the tasks only under its own label. The step
lemmas (`session_step`, `storage_step`, `endpoints_step`, `tasks_step`, `post_step`, `outcome_step`) say all that proofs
about runs use of `Shell.step`. A run leaves a record (`entries`): the events with the requests and the outcomes.
-/

namespace ConsoleShell

private theorem lookup_filter_ne {α : Type} (l : List (String × α)) (a b : String) :
    (l.filter (·.1 ≠ a)).lookup b = if b = a then none else l.lookup b := by
  induction l with
  | nil => simp
  | cons p l ih =>
    obtain ⟨k, v⟩ := p
    by_cases hk : k = a
    · subst hk
      rw [List.filter_cons_of_neg (by simp), ih]
      by_cases hb : b = k
      · simp [hb]
      · simp [hb, List.lookup_cons, beq_eq_false_iff_ne.2 hb]
    · rw [List.filter_cons_of_pos (by simp [hk]), List.lookup_cons, List.lookup_cons, ih]
      by_cases hb : b = k
      · subst hb; simp [hk]
      · simp [beq_eq_false_iff_ne.2 hb]

private theorem lookup_cons_filter_ne {α : Type} (l : List (String × α)) (a b : String) (v : α) :
    ((a, v) :: l.filter (·.1 ≠ a)).lookup b = if b = a then some v else l.lookup b := by
  rw [List.lookup_cons, lookup_filter_ne]
  by_cases hb : b = a
  · simp [hb]
  · simp [hb, beq_eq_false_iff_ne.2 hb]

namespace Progress

def mutation? : Progress → Option Mutation
  | .posts .. => none
  | .ends m _ => m
  | .commits g => some (.login g.token g.profile)

def post? : Progress → Option Post
  | .posts p _ => some p
  | _ => none

def next? : Progress → Option Task
  | .posts _ t => some t
  | _ => none

/-- What the job has come to, if the storage answers `stored` to a grant. -/
def outcome? (stored : String → StorageResult) : Progress → Option Outcome
  | .posts .. => none
  | .ends _ o => some o
  | .commits g => some (commitOutcome (stored g.token))

end Progress

/-- Only the wait for a token leads to another wait: for the profile that belongs to the token. -/
theorem Task.eq_of_next? {task next : Task} {endpoints : Endpoints} {held : Option String} {r : Reply}
    (h : (task.resume endpoints held r).next? = some next) :
    ∃ signIn t, task = .token signIn ∧ tokenOf r = .ok t ∧ next = .profile signIn t ∧
      (task.resume endpoints held r).post? = some (.query endpoints (some t) .userProfile) := by
  cases task with
  | query shape => simp [resume, Progress.next?] at h
  | refresh sentWith =>
    simp only [resume] at h
    cases hp : profileOf r <;> simp [hp, Progress.next?] at h
  | token signIn =>
    simp only [resume] at h ⊢
    cases ht : tokenOf r with
    | error e => cases signIn <;> simp [ht, failed, Progress.next?] at h
    | ok t =>
      obtain rfl : profile signIn t = next := by simpa [ht, Progress.next?] using h
      exact ⟨signIn, t, rfl, rfl, rfl, rfl⟩
  | profile signIn t =>
    simp only [resume] at h
    cases hp : profileOf r <;> cases signIn <;> simp [hp, failed, Progress.next?] at h

/-- The task ends with a login. -/
def Task.signsIn : Task → Bool
  | .token signIn | .profile signIn _ => signIn
  | _ => false

def Job.signsIn : Job → Bool
  | .attempt _ => true
  | _ => false

theorem Job.signsIn_task (token : Option String) (job : Job) : (job.task token).signsIn = job.signsIn := by
  cases job <;> rfl

namespace Shell

/-- A shell over a storage that nobody has looked into yet. -/
def new (storage : Storage) (endpoints : Endpoints) : Shell := { store := .new storage, endpoints := endpoints }

/-- What a reply leads to, if there is a task under the label. -/
def progress? (s : Shell) (label : String) (r : Reply) : Option Progress :=
  (s.task? label).map fun task => task.resume s.endpoints s.store.session.token r

def mutation? (s : Shell) : Event → Option Mutation
  | .move (.issue (.mutate m)) => some m
  | .start _ job => job.opening
  | .reply label r => (s.progress? label r).bind (·.mutation?)
  | _ => none

/-- A reply ends an attempt, or it brings the profile that the task waits for: one that belongs to a grant, or a fresh
one for the token that is still held. -/
theorem cases_of_mutation?_reply {s : Shell} {label : String} {r : Reply} {m : Mutation}
    (h : s.mutation? (.reply label r) = some m) :
    m = .endAttempt ∨ ∃ p, profileOf r = .ok p ∧
      ((∃ t, s.task? label = some (.profile true t) ∧ m = .login t p) ∨
        ∃ t, s.task? label = some (.refresh (some t)) ∧ s.store.session.token = some t ∧ m = .setProfile p) := by
  simp only [mutation?, progress?, Option.bind_map] at h
  obtain ⟨task, ht, hm⟩ := Option.bind_eq_some_iff.1 h
  simp only [Function.comp_apply] at hm
  rw [ht]
  cases task with
  | query shape => simp [Task.resume, Progress.mutation?] at hm
  | refresh sentWith =>
    simp only [Task.resume] at hm
    cases hp : profileOf r with
    | error e => simp [hp, Progress.mutation?] at hm
    | ok p =>
      right
      simp only [hp, Progress.mutation?] at hm
      split at hm
      · rename_i hheld
        obtain ⟨t, rfl⟩ := Option.isSome_iff_exists.1 hheld.1
        exact ⟨p, rfl, .inr ⟨t, rfl, hheld.2, (Option.some.inj hm).symm⟩⟩
      · simp at hm
  | token signIn =>
    left
    simp only [Task.resume] at hm
    cases htoken : tokenOf r <;> cases signIn <;> simp [htoken, Task.failed, Progress.mutation?] at hm
    exact hm.symm
  | profile signIn t =>
    simp only [Task.resume] at hm
    cases hp : profileOf r with
    | error e =>
      left
      cases signIn <;> simp [hp, Task.failed, Progress.mutation?] at hm
      exact hm.symm
    | ok p =>
      right
      cases signIn <;> simp [hp, Progress.mutation?] at hm
      exact ⟨p, rfl, .inl ⟨t, rfl, hm.symm⟩⟩

variable (s : Shell)

@[simp] theorem session_mutate? (m : Option Mutation) : (s.mutate? m).1.store.session =
    m.elim s.store.session (s.store.session.apply s.store.storage) := by
  cases m with
  | none => rfl
  | some m => simp [mutate?, issue, Store.issue, Store.apply]

@[simp] theorem storage_mutate? (m : Option Mutation) : (s.mutate? m).1.store.storage =
    m.elim s.store.storage s.store.storage.apply := by
  cases m with
  | none => rfl
  | some m => simp [mutate?, issue, Store.issue, Store.apply]

@[simp] theorem tasks_mutate? (m : Option Mutation) : (s.mutate? m).1.tasks = s.tasks := by
  cases m <;> rfl

@[simp] theorem endpoints_mutate? (m : Option Mutation) : (s.mutate? m).1.endpoints = s.endpoints := by
  cases m <;> rfl

/-- A job opens without touching the token. -/
private theorem token_opened (label : String) (job : Job) :
    ((s.drop label).mutate? job.opening).1.store.session.token = s.store.session.token := by
  rw [session_mutate?]
  cases job <;> rfl

/-! ### Events as moves of the store -/

/-- The move that an event makes in the store: one that it is, or the mutation that a task carries out. -/
def move? (s : Shell) : Event → Option Store.Move
  | .move m => some m
  | e => (s.mutation? e).map fun m => .issue (.mutate m)

/-- An event changes the store by its move, and makes the call that this move makes. -/
theorem move_step (e : Event) :
    (s.step e).1.store = (s.move? e).elim s.store (fun m => (s.store.move m).1) ∧
      (s.step e).2.call = (s.move? e).bind fun m => (s.store.move m).2 := by
  cases e with
  | move m => cases m <;> exact ⟨rfl, rfl⟩
  | start label job => cases job <;> exact ⟨rfl, rfl⟩
  | reply label r =>
    simp only [step, reply, move?, mutation?, progress?]
    cases s.task? label with
    | none => exact ⟨rfl, rfl⟩
    | some task =>
      simp only [Option.map_some, Option.bind_some]
      cases task.resume s.endpoints s.store.session.token r with
      | posts post next => exact ⟨rfl, rfl⟩
      | ends m outcome => cases m <;> exact ⟨rfl, rfl⟩
      | commits g => exact ⟨rfl, rfl⟩
  | drop label => exact ⟨rfl, rfl⟩

theorem move?_of_mutation? {s : Shell} {e : Event} {m : Mutation} (h : s.mutation? e = some m) :
    s.move? e = some (.issue (.mutate m)) := by
  cases e with
  | move k =>
    cases k with
    | proceed => simp [mutation?] at h
    | issue c =>
      cases c with
      | mutate m' =>
        obtain rfl : m' = m := Option.some.inj h
        rfl
      | _ => simp [mutation?] at h
  | _ => simp [move?, h]

/-! ### What an event leaves behind -/

/-- What an event does to the storage past the session. -/
def Event.change? : Event → Option Register.Change
  | .move (.issue (.change c)) => some c
  | _ => none

theorem Event.eq_of_change? {e : Event} {c : Register.Change} (h : e.change? = some c) :
    e = .move (.issue (.change c)) := by
  cases e with
  | move m =>
    cases m with
    | proceed => simp [change?] at h
    | issue d =>
      cases d with
      | change d => simpa [change?] using h
      | _ => simp [change?] at h
  | _ => simp [change?] at h

theorem session_step (e : Event) : (s.step e).1.store.session =
    (s.mutation? e).elim s.store.session (s.store.session.apply s.store.storage) := by
  cases e with
  | move m =>
    cases m with
    | issue c => cases c <;> simp [step, issue, Store.issue, Store.apply, mutation?]
    | proceed => simp [step, proceed, mutation?]
  | start label job => simp [step, start, put, drop, mutation?]
  | reply label r =>
    simp only [step, reply, mutation?, progress?]
    cases s.task? label with
    | none => rfl
    | some task =>
      simp only [Option.map_some, Option.bind_some]
      cases task.resume s.endpoints s.store.session.token r with
      | posts post next => rfl
      | ends m outcome => simp [drop, Progress.mutation?]
      | commits g => simp [drop, Progress.mutation?, issue, Store.issue, Store.apply]
  | drop label => rfl

theorem storage_step (e : Event) : (s.step e).1.store.storage =
    e.change?.elim ((s.mutation? e).elim s.store.storage s.store.storage.apply) s.store.storage.change := by
  cases e with
  | move m =>
    cases m with
    | issue c => cases c <;> simp [step, issue, Store.issue, Store.apply, mutation?, Event.change?]
    | proceed => simp [step, proceed, mutation?, Event.change?]
  | start label job => simp [step, start, put, drop, mutation?, Event.change?]
  | reply label r =>
    simp only [step, reply, mutation?, progress?, Event.change?, Option.elim_none]
    cases s.task? label with
    | none => rfl
    | some task =>
      simp only [Option.map_some, Option.bind_some]
      cases task.resume s.endpoints s.store.session.token r with
      | posts post next => rfl
      | ends m outcome => simp [drop, Progress.mutation?]
      | commits g => simp [drop, Progress.mutation?, issue, Store.issue, Store.apply]
  | drop label => rfl

@[simp] theorem endpoints_step (e : Event) : (s.step e).1.endpoints = s.endpoints := by
  cases e with
  | move m => cases m <;> rfl
  | start label job => simp [step, start, put, drop]
  | reply label r =>
    simp only [step, reply]
    split
    · rfl
    · split <;> simp [put, drop, issue]
  | drop label => rfl

def otherTasks (label : String) : List (String × Task) := s.tasks.filter (·.1 ≠ label)

def nextTasks : Event → List (String × Task)
  | .move _ => s.tasks
  | .start label job => (label, job.task s.store.session.token) :: s.otherTasks label
  | .reply label r =>
    match s.progress? label r with
    | none => s.tasks
    | some p => p.next?.elim (s.otherTasks label) fun t => (label, t) :: s.otherTasks label
  | .drop label => s.otherTasks label

theorem tasks_step (e : Event) : (s.step e).1.tasks = s.nextTasks e := by
  cases e with
  | move m => cases m <;> rfl
  | start label job =>
    simp only [step, start, token_opened]
    -- the label is cleared twice: before the job opens, and when its task is put there
    simp only [put, nextTasks, otherTasks, drop, tasks_mutate?, List.filter_filter, Bool.and_self]
  | reply label r =>
    simp only [step, reply, nextTasks, progress?]
    cases s.task? label with
    | none => rfl
    | some task =>
      simp only [Option.map_some]
      cases task.resume s.endpoints s.store.session.token r with
      | posts post next => rfl
      | ends m outcome => exact tasks_mutate? _ m
      | commits g => rfl
  | drop label => rfl

/-- The label of the task that an event is about. -/
def Event.label? : Event → Option String
  | .move _ => none
  | .start label _ | .reply label _ | .drop label => some label

def Event.starts (label : String) : Event → Bool
  | .start l _ => l = label
  | _ => false

theorem Event.cases_of_label? {e : Event} {label : String} (h : e.label? = some label) :
    (∃ job, e = .start label job) ∨ (∃ r, e = .reply label r) ∨ e = .drop label := by
  cases e with
  | move m => simp [label?] at h
  | start l job =>
    obtain rfl : l = label := Option.some.inj h
    exact .inl ⟨job, rfl⟩
  | reply l r =>
    obtain rfl : l = label := Option.some.inj h
    exact .inr (.inl ⟨r, rfl⟩)
  | drop l =>
    obtain rfl : l = label := Option.some.inj h
    exact .inr (.inr rfl)

theorem task?_step (e : Event) (label : String) : (s.step e).1.task? label =
    match e with
    | .move _ => s.task? label
    | .start l job => if label = l then some (job.task s.store.session.token) else s.task? label
    | .reply l r => if label = l then (s.progress? l r).bind (·.next?) else s.task? label
    | .drop l => if label = l then none else s.task? label := by
  rw [task?, tasks_step]
  cases e with
  | move m => rfl
  | start l job => exact lookup_cons_filter_ne s.tasks l label _
  | reply l r =>
    cases hp : s.progress? l r with
    | none =>
      by_cases h : label = l
      · subst h
        have hnone : s.task? label = none := Option.map_eq_none_iff.1 hp
        simp only [nextTasks, hp, Option.bind_none, if_true]
        exact hnone
      · simp [nextTasks, hp, h, task?]
    | some p =>
      simp only [nextTasks, hp, Option.bind_some]
      cases p.next? with
      | none => exact lookup_filter_ne s.tasks l label
      | some t => exact lookup_cons_filter_ne s.tasks l label t
  | drop l => exact lookup_filter_ne s.tasks l label

theorem task?_step_of_ne {s : Shell} {e : Event} {label : String} (h : e.label? ≠ some label) :
    (s.step e).1.task? label = s.task? label := by
  rw [task?_step]
  cases e with
  | move m => rfl
  | start a job => exact if_neg fun hla => h (by rw [hla]; rfl)
  | reply a r => exact if_neg fun hla => h (by rw [hla]; rfl)
  | drop a => exact if_neg fun hla => h (by rw [hla]; rfl)

/-- The event sets token or profile without any task. -/
def Event.byHand : Event → Bool
  | .move (.issue (.mutate (.login ..))) | .move (.issue (.mutate (.setProfile _))) => true
  | _ => false

/-! ### What an event brings about -/

/-- What the storage answers to a token. -/
def stored (token : String) : StorageResult := s.store.storage.outcome (.save token)

theorem post_step (e : Event) : (s.step e).2.post =
    match e with
    | .start _ job => some (job.post s.endpoints s.store.session.token)
    | .reply label r => (s.progress? label r).bind (·.post?)
    | _ => none := by
  cases e with
  | move m => cases m <;> rfl
  | start label job => simp only [step, start, token_opened]
  | reply label r =>
    simp only [step, reply, progress?]
    cases s.task? label with
    | none => rfl
    | some task =>
      simp only [Option.map_some, Option.bind_some]
      cases task.resume s.endpoints s.store.session.token r <;> rfl
  | drop label => rfl

/-- Where a task comes from that waits after an event: it waited before, or its job has just started, or it waited for a
token and now asks for the profile that belongs to it. -/
theorem cases_of_task?_step {s : Shell} {e : Event} {label : String} {task : Task}
    (h : (s.step e).1.task? label = some task) :
    (e.label? ≠ some label ∧ s.task? label = some task) ∨
    (∃ job, e = .start label job ∧ task = job.task s.store.session.token) ∨
    ∃ r signIn t, e = .reply label r ∧ s.task? label = some (.token signIn) ∧ tokenOf r = .ok t ∧
      task = .profile signIn t ∧ (s.step e).2.post = some (.query s.endpoints (some t) .userProfile) := by
  by_cases hl : e.label? = some label
  · right
    rw [task?_step] at h
    rcases Event.cases_of_label? hl with ⟨job, rfl⟩ | ⟨r, rfl⟩ | rfl
    · left
      exact ⟨job, rfl, by simpa using h.symm⟩
    · right
      simp only [if_true, progress?, Option.bind_map] at h
      obtain ⟨old, hold, hnext⟩ := Option.bind_eq_some_iff.1 h
      obtain ⟨signIn, t, rfl, ht, rfl, hpost⟩ := Task.eq_of_next? hnext
      refine ⟨r, signIn, t, rfl, hold, ht, rfl, ?_⟩
      simp only [post_step, progress?, hold, Option.map_some, Option.bind_some]
      exact hpost
    · simp at h
  · left
    exact ⟨hl, by rwa [task?_step_of_ne hl] at h⟩

theorem outcome_step (e : Event) : (s.step e).2.outcome =
    match e with
    | .reply label r => (s.progress? label r).bind (·.outcome? s.stored)
    | _ => none := by
  cases e with
  | move m => cases m <;> rfl
  | start label job => rfl
  | reply label r =>
    simp only [step, reply, progress?]
    cases s.task? label with
    | none => rfl
    | some task =>
      simp only [Option.map_some, Option.bind_some]
      cases task.resume s.endpoints s.store.session.token r <;> rfl
  | drop label => rfl

@[simp] theorem run_nil : s.run [] = s := rfl

@[simp] theorem run_cons (e : Event) (es : List Event) : s.run (e :: es) = (s.step e).1.run es := rfl

/-- The events of a run, each with the shell that it found. -/
def trail (s : Shell) : List Event → List (Shell × Event)
  | [] => []
  | e :: es => (s, e) :: (s.step e).1.trail es

theorem trail_append (s : Shell) (es fs : List Event) : s.trail (es ++ fs) = s.trail es ++ (s.run es).trail fs := by
  induction es generalizing s with
  | nil => rfl
  | cons e es ih => rw [List.cons_append, trail, ih, trail, run_cons, List.cons_append]

theorem kept_run {P : Shell → Prop} (hP : ∀ s e, P s → P (s.step e).1) {s : Shell} (h : P s) (es : List Event) :
    P (s.run es) := by
  induction es generalizing s with
  | nil => exact h
  | cons e es ih => exact ih (hP s e h)

theorem kept_trail {P : Shell → Prop} (hP : ∀ s e, P s → P (s.step e).1) {s : Shell} (h : P s) {es : List Event}
    {x : Shell × Event} (hx : x ∈ s.trail es) : P x.1 := by
  induction es generalizing s with
  | nil => simp [trail] at hx
  | cons e es ih =>
    rcases List.mem_cons.1 hx with rfl | hx
    · exact h
    · exact ih (hP s e h) hx

/-- An event, the request that was posted on it, and what a job came to with it. -/
structure Entry where
  event : Event
  post : Option Post
  outcome : Option Outcome

def entry (e : Event) : Entry := ⟨e, (s.step e).2.post, (s.step e).2.outcome⟩

def entries (s : Shell) : List Event → List Entry
  | [] => []
  | e :: es => s.entry e :: (s.step e).1.entries es

end Shell

end ConsoleShell
