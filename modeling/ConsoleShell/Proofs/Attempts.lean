import ConsoleShell.Guard
import ConsoleShell.Proofs.ShellSteps
import Mathlib.Data.List.Induction

/-!
# The count of attempts

The session counts the attempts to log in that are under way; `restore` and `signout` set the count to zero without
asking whether any are. An attempt that outlives such a reset is no longer counted, and its end takes the count of a
later attempt away.

* `lt_count_iff`: the count is the number of attempts in flight less the smallest such number at any moment since
  the last reset.
* `covered_iff`: so the session shows that an attempt is in flight exactly if fewer were in flight at some moment since
  the last reset.
* `covered_of_quiet_resets`: it always does if no reset is made while an attempt is in flight.
* `uncovered_attempt`: an attempt in flight that the session does not show.
-/

namespace ConsoleShell

namespace Mutation

/-- The mutation ends one attempt. -/
def ends : Mutation → Bool
  | .login .. | .endAttempt => true
  | _ => false

/-- The mutation has nothing to do with attempts. -/
def setsProfile : Mutation → Bool
  | .setProfile _ => true
  | _ => false

end Mutation

/-- A reply either ends an attempt, or it leads to the next wait and leaves the session alone. -/
theorem Task.resume_of_signsIn {task : Task} (h : task.signsIn) (endpoints : Endpoints) (held : Option String)
    (r : Reply) :
    ((task.resume endpoints held r).next?.any (·.signsIn) = false ∧
      ∃ m, (task.resume endpoints held r).mutation? = some m ∧ m.ends) ∨
    ((task.resume endpoints held r).next?.any (·.signsIn) = true ∧
      (task.resume endpoints held r).mutation? = none) := by
  cases task with
  | query shape => simp [signsIn] at h
  | refresh sentWith => simp [signsIn] at h
  | token signIn =>
    obtain rfl : signIn = true := h
    simp only [resume]
    cases tokenOf r with
    | error e => left; exact ⟨rfl, .endAttempt, rfl, rfl⟩
    | ok t => right; exact ⟨rfl, rfl⟩
  | profile signIn t =>
    obtain rfl : signIn = true := h
    simp only [resume]
    cases profileOf r with
    | error e => left; exact ⟨rfl, .endAttempt, rfl, rfl⟩
    | ok p => left; exact ⟨rfl, .login t p, rfl, rfl⟩

/-- A task that is no attempt does not become one, and at most sets a profile. -/
theorem Task.resume_of_not_signsIn {task : Task} (h : task.signsIn = false) (endpoints : Endpoints)
    (held : Option String) (r : Reply) :
    (task.resume endpoints held r).next?.any (·.signsIn) = false ∧
      (task.resume endpoints held r).mutation?.all (·.setsProfile) = true := by
  cases task with
  | query shape => exact ⟨rfl, rfl⟩
  | refresh sentWith =>
    simp only [resume]
    cases profileOf r with
    | error e => exact ⟨rfl, rfl⟩
    | ok p =>
      refine ⟨rfl, ?_⟩
      simp only [Progress.mutation?]
      split <;> rfl
  | token signIn =>
    obtain rfl : signIn = false := h
    simp only [resume]
    cases tokenOf r with
    | error e => exact ⟨rfl, rfl⟩
    | ok t => exact ⟨rfl, rfl⟩
  | profile signIn t =>
    obtain rfl : signIn = false := h
    simp only [resume]
    cases profileOf r with
    | error e => exact ⟨rfl, rfl⟩
    | ok p => exact ⟨rfl, rfl⟩

namespace Session

theorem attempts_apply_of_ends {m : Mutation} (h : m.ends) (s : Session) (storage : Storage) :
    (s.apply storage m).attempts = fewerAttempts s.attempts := by
  cases m with
  | login token profile => simp only [apply]; split <;> rfl
  | endAttempt => rfl
  | _ => simp [Mutation.ends] at h

private theorem attempts_apply_of_setsProfile {m : Mutation} (h : m.setsProfile) (s : Session) (storage : Storage) :
    (s.apply storage m).attempts = s.attempts := by
  cases m with
  | setProfile p => rfl
  | _ => simp [Mutation.setsProfile] at h

end Session

/-- Taking a label away takes away the one entry under it. -/
private theorem countP_filter_ne {α : Type} (q : α → Bool) {l : List (String × α)} (hl : (l.map (·.1)).Nodup)
    (a : String) : (l.filter (·.1 ≠ a)).countP (q ·.2) + ((l.lookup a).any q).toNat = l.countP (q ·.2) := by
  induction l with
  | nil => rfl
  | cons p l ih =>
    obtain ⟨k, v⟩ := p
    rw [List.map_cons, List.nodup_cons] at hl
    have ih := ih hl.2
    by_cases hk : k = a
    · -- the head goes, and by distinctness nothing else does
      subst hk
      have hnone : l.lookup k = none := by
        rw [List.lookup_eq_none_iff]
        intro x hx
        have : x.1 ≠ k := fun e => hl.1 (List.mem_map.2 ⟨x, hx, e⟩)
        simpa using this.symm
      rw [hnone] at ih
      rw [List.filter_cons_of_neg (by simp), List.lookup_cons, List.countP_cons, ← ih]
      simp only [BEq.rfl, Option.any_some, Option.any_none, Bool.toNat_false, Nat.add_zero]
      cases q v <;> rfl
    · have hne : (a == k) = false := by simpa using Ne.symm hk
      rw [List.filter_cons_of_pos (by simp [hk]), List.lookup_cons, List.countP_cons, List.countP_cons, hne]
      simp only
      omega

namespace Shell

def inFlight (s : Shell) : Nat := s.tasks.countP (·.2.signsIn)

/-- Is it an attempt that waits under the label? -/
def attempts (s : Shell) (label : String) : Bool := (s.task? label).any (·.signsIn)

/-- The event sets the count to zero. -/
def Event.resets : Event → Bool
  | .move (.issue (.mutate .restore)) | .move (.issue (.mutate .signout)) => true
  | _ => false

/-- The event drops no attempt and does not count one by hand. -/
def Orderly (s : Shell) : Event → Bool
  | .move (.issue (.mutate .beginAttempt)) => false
  | .move (.issue (.mutate m)) => !m.ends
  | .move _ | .reply .. => true
  | .start label _ | .drop label => !s.attempts label

def count (s : Shell) : Nat := s.store.session.attempts.toNat

/-- No label has two tasks. -/
def Distinct (s : Shell) : Prop := (s.tasks.map (·.1)).Nodup

private theorem nodup_map_fst_filter {α : Type} {l : List (String × α)} (h : (l.map (·.1)).Nodup)
    (p : String × α → Bool) : ((l.filter p).map (·.1)).Nodup :=
  h.sublist (List.filter_sublist.map _)

private theorem nodup_map_fst_cons_filter {α : Type} {l : List (String × α)} (h : (l.map (·.1)).Nodup) (a : String)
    (v : α) : (((a, v) :: l.filter (·.1 ≠ a)).map (·.1)).Nodup := by
  rw [List.map_cons, List.nodup_cons]
  refine ⟨?_, nodup_map_fst_filter h _⟩
  intro hm
  obtain ⟨x, hx, hxa⟩ := List.mem_map.1 hm
  have : x.1 ≠ a := by simpa using (List.mem_filter.1 hx).2
  exact this hxa

theorem Distinct.step {s : Shell} (h : s.Distinct) (e : Event) : (s.step e).1.Distinct := by
  unfold Distinct
  rw [tasks_step]
  cases e with
  | move m => exact h
  | start label job => exact nodup_map_fst_cons_filter h label _
  | reply label r =>
    simp only [nextTasks]
    cases s.progress? label r with
    | none => exact h
    | some p =>
      dsimp only
      cases p.next? with
      | none => exact nodup_map_fst_filter h _
      | some t => exact nodup_map_fst_cons_filter h label t
  | drop label => exact nodup_map_fst_filter h _

/-- The attempts under other labels, and the one under this label, are all there are. -/
theorem countP_otherTasks {s : Shell} (h : s.Distinct) (label : String) :
    (s.otherTasks label).countP (·.2.signsIn) + (s.attempts label).toNat = s.inFlight :=
  countP_filter_ne Task.signsIn h label

/-! ### One event -/

/-- What an event does to the attempts in flight and to their count. -/
inductive Turn (n c n' c' : Nat) : Prop
  | begins (hn : n' = n + 1) (hc : c' = c + 1)
  | ends (hn : n = n' + 1) (hc : c' = c - 1)
  | keeps (hn : n' = n) (hc : c' = c)

theorem count_of_ends {s : Shell} {e : Event} {m : Mutation} (hm : s.mutation? e = some m) (h : m.ends) :
    (s.step e).1.count = s.count - 1 := by
  rw [count, session_step, hm, Option.elim_some, Session.attempts_apply_of_ends h]
  exact Session.fewerAttempts_toNat _

private theorem count_of_all_setsProfile {s : Shell} {e : Event} (h : (s.mutation? e).all (·.setsProfile)) :
    (s.step e).1.count = s.count := by
  rw [count, session_step]
  cases hm : s.mutation? e with
  | none => rfl
  | some m =>
    rw [hm] at h
    simp [Session.attempts_apply_of_setsProfile (by simpa using h), count]

private theorem count_of_begins {s : Shell} {e : Event} (hm : s.mutation? e = some .beginAttempt)
    (hc : s.count + 1 < UInt32.size) : (s.step e).1.count = s.count + 1 := by
  rw [count, session_step, hm, Option.elim_some]
  show (s.store.session.attempts + 1).toNat = _
  rw [UInt32.toNat_add]
  exact Nat.mod_eq_of_lt hc

private theorem count_of_resets {s : Shell} {e : Event} (h : e.resets) : (s.step e).1.count = 0 := by
  rw [count, session_step]
  cases e with
  | move m =>
    cases m with
    | proceed => simp [Event.resets] at h
    | issue c =>
      cases c with
      | mutate m => cases m <;> first | rfl | simp [Event.resets] at h
      | _ => simp [Event.resets] at h
  | _ => simp [Event.resets] at h

private theorem inFlight_of_resets {s : Shell} {e : Event} (h : e.resets) : (s.step e).1.inFlight = s.inFlight := by
  rw [inFlight, tasks_step]
  cases e with
  | move m => rfl
  | _ => simp [Event.resets] at h

theorem inFlight_step (s : Shell) (e : Event) :
    (s.step e).1.inFlight = (s.nextTasks e).countP (·.2.signsIn) := by
  rw [inFlight, tasks_step]

theorem inFlight_cons (s : Shell) (label : String) (task : Task) :
    ((label, task) :: s.otherTasks label).countP (·.2.signsIn) =
      (s.otherTasks label).countP (·.2.signsIn) + task.signsIn.toNat := by
  rw [List.countP_cons]
  cases task.signsIn <;> rfl

/-- The attempts after a reply: those under other labels, and the next wait. -/
theorem inFlight_reply {s : Shell} {label : String} {r : Reply} {p : Progress} (hp : s.progress? label r = some p) :
    (s.step (.reply label r)).1.inFlight =
      (s.otherTasks label).countP (·.2.signsIn) + (p.next?.any (·.signsIn)).toNat := by
  rw [inFlight_step]
  simp only [nextTasks, hp]
  cases p.next? with
  | none => rfl
  | some next => exact s.inFlight_cons label next

private theorem turn_reply {s : Shell} (hd : s.Distinct) (label : String) (r : Reply) :
    Turn s.inFlight s.count (s.step (.reply label r)).1.inFlight (s.step (.reply label r)).1.count := by
  have hothers := countP_otherTasks hd label
  cases ht : s.task? label with
  | none =>
    have hp : s.progress? label r = none := by rw [progress?, ht]; rfl
    refine .keeps ?_ (count_of_all_setsProfile (by rw [mutation?, hp]; rfl))
    rw [inFlight_step]
    simp only [nextTasks, hp]
    rfl
  | some task =>
    have hp : s.progress? label r = some (task.resume s.endpoints s.store.session.token r) := by
      rw [progress?, ht]; rfl
    have hm : s.mutation? (.reply label r) = (task.resume s.endpoints s.store.session.token r).mutation? := by
      rw [mutation?, hp]; rfl
    have hnow : s.attempts label = task.signsIn := by rw [attempts, ht]; rfl
    have hn := inFlight_reply hp
    cases hs : task.signsIn with
    | true =>
      rw [hnow, hs, Bool.toNat_true] at hothers
      rcases Task.resume_of_signsIn hs s.endpoints s.store.session.token r with ⟨hnext, m, hmm, hends⟩ | ⟨hnext, hnone⟩
      · rw [hnext, Bool.toNat_false] at hn
        exact .ends (by omega) (count_of_ends (hm.trans hmm) hends)
      · rw [hnext, Bool.toNat_true] at hn
        exact .keeps (by omega) (count_of_all_setsProfile (by rw [hm, hnone]; rfl))
    | false =>
      rw [hnow, hs, Bool.toNat_false] at hothers
      obtain ⟨hnext, hall⟩ := Task.resume_of_not_signsIn hs s.endpoints s.store.session.token r
      rw [hnext, Bool.toNat_false] at hn
      exact .keeps (by omega) (count_of_all_setsProfile (by rw [hm]; exact hall))

/-- An orderly event that is no reset begins an attempt, ends one, or leaves attempts and count alone. -/
private theorem turn {s : Shell} {e : Event} (hd : s.Distinct) (ho : s.Orderly e) (hr : e.resets = false)
    (hle : s.count ≤ s.inFlight) (hb : (s.step e).1.inFlight < UInt32.size) :
    Turn s.inFlight s.count (s.step e).1.inFlight (s.step e).1.count := by
  cases e with
  | move m =>
    refine .keeps (inFlight_step s _) (count_of_all_setsProfile ?_)
    cases m with
    | proceed => rfl
    | issue c =>
      cases c with
      | mutate m =>
        cases m with
        | setProfile p => rfl
        | restore => simp [Event.resets] at hr
        | signout => simp [Event.resets] at hr
        | login t p => simp [Orderly, Mutation.ends] at ho
        | beginAttempt => simp [Orderly] at ho
        | endAttempt => simp [Orderly, Mutation.ends] at ho
      | _ => rfl
  | start label job =>
    have hno : s.attempts label = false := by simpa [Orderly] using ho
    have hothers := countP_otherTasks hd label
    have hn : (s.step (.start label job)).1.inFlight = s.inFlight + job.signsIn.toNat := by
      rw [inFlight_step, nextTasks, inFlight_cons, Job.signsIn_task, ← hothers, hno]
      rfl
    cases job with
    | attempt credentials =>
      simp only [Job.signsIn, Bool.toNat_true] at hn
      exact .begins hn (count_of_begins rfl (by omega))
    | query request shape => exact .keeps hn (count_of_all_setsProfile rfl)
    | refresh => exact .keeps hn (count_of_all_setsProfile rfl)
    | authenticate credentials => exact .keeps hn (count_of_all_setsProfile rfl)
  | reply label r => exact turn_reply hd label r
  | drop label =>
    have hno : s.attempts label = false := by simpa [Orderly] using ho
    have hothers := countP_otherTasks hd label
    rw [hno, Bool.toNat_false, Nat.add_zero] at hothers
    exact .keeps ((inFlight_step s _).trans hothers) (count_of_all_setsProfile rfl)

/-! ### Whole runs -/

/-- The run drops no attempt, counts none by hand, and never has more of them in flight than the count can hold. -/
def Regular (s : Shell) : List Event → Bool
  | [] => s.inFlight < UInt32.size
  | e :: es => s.inFlight < UInt32.size && s.Orderly e && (s.step e).1.Regular es

private theorem regular_concat {s : Shell} {es : List Event} {e : Event} (h : s.Regular (es ++ [e])) :
    s.Regular es ∧ (s.run es).Orderly e ∧ (s.run (es ++ [e])).inFlight < UInt32.size := by
  induction es generalizing s with
  | nil => simpa [Regular, and_assoc] using h
  | cons d es ih =>
    simp only [List.cons_append, Regular, Bool.and_eq_true] at h
    obtain ⟨h1, h2, h3⟩ := ih h.2
    exact ⟨by simp only [Regular, h.1, h1, Bool.and_true], h2, h3⟩

private theorem Distinct.run {s : Shell} (h : s.Distinct) (es : List Event) : (s.run es).Distinct := by
  induction es generalizing s with
  | nil => exact h
  | cons e es ih => exact ih (h.step e)

/-- The events since a moment with `n` attempts in flight hold no reset. -/
def Since (s : Shell) (es : List Event) (n : Nat) : Prop :=
  ∃ pre post, es = pre ++ post ∧ (∀ e ∈ post, e.resets = false) ∧ (s.run pre).inFlight = n

private theorem since_concat_iff {s : Shell} {es : List Event} {e : Event} {n : Nat} :
    s.Since (es ++ [e]) n ↔ (s.run (es ++ [e])).inFlight = n ∨ e.resets = false ∧ s.Since es n := by
  constructor
  · rintro ⟨pre, post, hes, hpost, hn⟩
    rcases List.eq_nil_or_concat post with rfl | ⟨post, d, rfl⟩
    · rw [List.append_nil] at hes
      exact Or.inl (hes ▸ hn)
    · rw [List.concat_eq_append, ← List.append_assoc] at hes
      obtain ⟨rfl, hd⟩ := List.append_inj' hes rfl
      obtain rfl : e = d := by simpa using hd
      exact Or.inr ⟨hpost e (by simp), pre, post, rfl, fun d hd => hpost d (by simp [hd]), hn⟩
  · rintro (hn | ⟨he, pre, post, rfl, hpost, hn⟩)
    · exact ⟨es ++ [e], [], by simp, by simp, hn⟩
    · refine ⟨pre, post ++ [e], by simp, ?_, hn⟩
      intro d hd
      rcases List.mem_append.1 hd with hd | hd
      · exact hpost d hd
      · obtain rfl : d = e := by simpa using hd
        exact he

/-- The count is the number of attempts in flight less the smallest such number since the last reset. -/
theorem lt_count_iff {s : Shell} (hd : s.Distinct) (hc : s.count = 0) {es : List Event} (h : s.Regular es) (k : Nat) :
    k < (s.run es).count ↔ ∃ n, s.Since es n ∧ n + k < (s.run es).inFlight := by
  induction es using List.reverseRecOn generalizing k with
  | nil =>
    rw [run_nil, hc]
    constructor
    · intro hk; omega
    · rintro ⟨n, ⟨pre, post, hes, -, hn⟩, hlt⟩
      obtain ⟨rfl, rfl⟩ := List.append_eq_nil_iff.1 hes.symm
      rw [run_nil] at hn
      omega
  | append_singleton es e ih =>
    obtain ⟨hes, ho, hb⟩ := regular_concat h
    have ih := ih hes
    have hrun : s.run (es ++ [e]) = ((s.run es).step e).1 := by rw [run_append]; rfl
    simp only [since_concat_iff]
    rw [hrun] at hb ⊢
    cases hr : e.resets with
    | true =>
      -- the only moment since the reset is now
      rw [count_of_resets hr]
      constructor
      · intro hk; omega
      · rintro ⟨n, hn | hn, hlt⟩
        · omega
        · simp at hn
    | false =>
      -- the count never exceeds the attempts, so it is as far from its limit as they are
      have hle : (s.run es).count ≤ (s.run es).inFlight := by
        by_contra hlt
        obtain ⟨n, -, hn⟩ := (ih (s.run es).inFlight).1 (by omega)
        omega
      have hsince : ∀ j, (∃ n, ((((s.run es).step e).1.inFlight = n) ∨ false = false ∧ s.Since es n) ∧
          n + j < ((s.run es).step e).1.inFlight) ↔
          ∃ n, s.Since es n ∧ n + j < ((s.run es).step e).1.inFlight := by
        intro j
        constructor
        · rintro ⟨n, hn | ⟨-, hn⟩, hlt⟩
          · omega
          · exact ⟨n, hn, hlt⟩
        · rintro ⟨n, hn, hlt⟩
          exact ⟨n, Or.inr ⟨rfl, hn⟩, hlt⟩
      rw [hsince]
      have hnow : s.Since es (s.run es).inFlight := ⟨es, [], by simp, by simp, rfl⟩
      rcases turn (hd.run es) ho hr hle hb with ⟨hn, hc⟩ | ⟨hn, hc⟩ | ⟨hn, hc⟩
      · -- the moment before the attempt has one in flight less
        rw [hn, hc]
        cases k with
        | zero => exact ⟨fun _ => ⟨_, hnow, by omega⟩, fun _ => by omega⟩
        | succ k => simpa [Nat.add_assoc, ← Nat.add_assoc] using ih k
      · rw [hc]
        have := ih (k + 1)
        constructor
        · intro hk
          obtain ⟨n, hs, hlt⟩ := this.1 (by omega)
          exact ⟨n, hs, by omega⟩
        · rintro ⟨n, hs, hlt⟩
          have := this.2 ⟨n, hs, by omega⟩
          omega
      · rw [hn, hc]
        exact ih k

/-! ### What the session shows of them -/

/-- If an attempt is in flight, the session shows one, and no view sends the visitor away. -/
def Covered (s : Shell) : Prop :=
  0 < s.inFlight → s.store.snapshot.authenticating = true ∧ ∀ view, shouldRedirect view s.store.snapshot = false

theorem authenticating_iff {s : Shell} : s.store.snapshot.authenticating = true ↔ 0 < s.count := by
  simp only [Store.snapshot, Session.snapshot, count, decide_eq_true_eq, UInt32.lt_iff_toNat_lt]
  rfl

private theorem covered_iff_count {s : Shell} : s.Covered ↔ (0 < s.inFlight → 0 < s.count) := by
  constructor
  · intro h hn
    exact authenticating_iff.1 (h hn).1
  · intro h hn
    have ha := authenticating_iff.2 (h hn)
    exact ⟨ha, shouldRedirect_eq_false_of_session (.inr ha)⟩

/-- An attempt in flight shows exactly if fewer were in flight at some moment since the last reset. -/
theorem covered_iff (storage : Storage) (endpoints : Endpoints) (es : List Event)
    (h : (new storage endpoints).Regular es) :
    ((new storage endpoints).run es).Covered ↔
      (0 < ((new storage endpoints).run es).inFlight →
        ∃ pre post, es = pre ++ post ∧ (∀ e ∈ post, e.resets = false) ∧
          ((new storage endpoints).run pre).inFlight < ((new storage endpoints).run es).inFlight) := by
  have hlt := lt_count_iff (s := new storage endpoints) List.nodup_nil rfl h 0
  rw [covered_iff_count, hlt]
  constructor
  · intro hs hn
    obtain ⟨n, ⟨pre, post, hes, hpost, rfl⟩, hlt⟩ := hs hn
    exact ⟨pre, post, hes, hpost, hlt⟩
  · intro hs hn
    obtain ⟨pre, post, hes, hpost, hlt⟩ := hs hn
    exact ⟨_, ⟨pre, post, hes, hpost, rfl⟩, hlt⟩

/-- A second attempt, begun after the session was signed out under the first one, shows. -/
theorem second_attempt_covered :
    let s := new (.register { key := "token" }) ⟨"/query", "/login"⟩
    let es : List Event :=
      [.start "first" (.attempt ⟨"a", "1"⟩), .move (.issue (.mutate .signout)), .start "second" (.attempt ⟨"b", "2"⟩)]
    s.Regular es ∧ 0 < (s.run es).inFlight ∧ (s.run es).Covered := by
  intro s es
  have h : s.Regular es := by decide
  refine ⟨h, by decide, (covered_iff _ _ es h).2 ?_⟩
  intro _
  refine ⟨es.take 2, es.drop 2, rfl, ?_, by decide⟩
  simp [es, Event.resets]

/-- The end of the first attempt takes the count of the second one away. -/
theorem uncovered_attempt :
    let s := new (.register { key := "token" }) ⟨"/query", "/login"⟩
    let es : List Event :=
      [.start "first" (.attempt ⟨"a", "1"⟩), .move (.issue (.mutate .signout)), .start "second" (.attempt ⟨"b", "2"⟩),
        .reply "first" (.failed (.request "offline"))]
    s.Regular es ∧ (s.run es).attempts "second" ∧ (s.run es).store.snapshot.authenticating = false ∧
      shouldRedirect .home (s.run es).store.snapshot = true := by
  decide

private theorem since_zero {s : Shell} (h0 : s.inFlight = 0) {es : List Event}
    (hq : ∀ pre e post, es = pre ++ e :: post → e.resets → (s.run pre).inFlight = 0) : s.Since es 0 := by
  induction es using List.reverseRecOn with
  | nil => exact ⟨[], [], rfl, by simp, h0⟩
  | append_singleton es e ih =>
    rw [since_concat_iff]
    by_cases hr : e.resets
    · left
      have hlast : (s.run es).inFlight = 0 := hq es e [] rfl hr
      rw [run_append]
      exact (inFlight_of_resets hr).trans hlast
    · right
      refine ⟨by simpa using hr, ih ?_⟩
      intro pre d post hes hd
      exact hq pre d (post ++ [e]) (by simp [hes]) hd

/-- If the session is never signed out or restored while an attempt is in flight, every attempt in flight shows. -/
theorem covered_of_quiet_resets (storage : Storage) (endpoints : Endpoints) {es : List Event}
    (h : (new storage endpoints).Regular es)
    (hq : ∀ pre e post, es = pre ++ e :: post → e.resets → ((new storage endpoints).run pre).inFlight = 0) :
    ((new storage endpoints).run es).Covered := by
  rw [covered_iff_count, lt_count_iff (s := new storage endpoints) List.nodup_nil rfl h]
  intro hn
  exact ⟨0, since_zero rfl hq, hn⟩

end Shell

end ConsoleShell
