import ConsoleShell.Proofs.ShellSteps
import Mathlib

/-!
# Whose profile a session shows

A session keeps its profile apart from its token, and the two come by different ways: together, with a login, or the
profile alone, with a refresh that may have waited while the token was given up, stored anew or replaced. A journal of
the requests and their replies tells for each profile which token it was asked for with.

* `Shell.Owned`: what every task waits for is in the journal, and so is the reply that the profile came with.
* `profile_of_held_token`: the profile of a session was read out of a reply to a request with the token of the session.
-/

namespace ConsoleShell

/-- A request and the reply to it. -/
structure Exchange where
  post : Post
  reply : Reply

structure Journal where
  /-- The request under a label that waits for its reply. -/
  awaiting : String → Option Post := fun _ => none
  answered : List Exchange := []

namespace Journal

/-- The journal after an entry: a reply answers the request that waits, and the label then waits for the next one. -/
def record (j : Journal) (x : Shell.Entry) : Journal where
  awaiting :=
    match x.event.label? with
    | some label => Function.update j.awaiting label x.post
    | none => j.awaiting
  answered :=
    match x.event with
    | .reply label r => ((j.awaiting label).map (⟨·, r⟩)).toList ++ j.answered
    | _ => j.answered

/-- An entry about another label leaves this one waiting as it was. -/
private theorem awaiting_record_of_ne {x : Shell.Entry} {label : String} (h : x.event.label? ≠ some label)
    (j : Journal) : (j.record x).awaiting label = j.awaiting label := by
  simp only [record]
  cases hx : x.event.label? with
  | none => rfl
  | some a =>
    have hne : label ≠ a := fun hla => h (by rw [hx, hla])
    exact Function.update_of_ne hne _ _

/-- Asked for with the token, the profile came. -/
def Backs (j : Journal) (endpoints : Endpoints) (token : String) (profile : Profile) : Prop :=
  ∃ x ∈ j.answered, x.post = .query endpoints (some token) .userProfile ∧ profileOf x.reply = .ok profile

private theorem Backs.record {j : Journal} {endpoints : Endpoints} {token : String} {profile : Profile}
    (h : j.Backs endpoints token profile) (x : Shell.Entry) : (j.record x).Backs endpoints token profile := by
  obtain ⟨y, hy, hpost, hreply⟩ := h
  refine ⟨y, ?_, hpost, hreply⟩
  simp only [Journal.record]
  split
  · exact List.mem_append_right _ hy
  · exact hy

/-- The reply to a profile query backs the profile in it. -/
private theorem backs_of_awaiting {j : Journal} {endpoints : Endpoints} {label token : String} {profile : Profile}
    {r : Reply} (hj : j.awaiting label = some (.query endpoints (some token) .userProfile))
    (hr : profileOf r = .ok profile) (post : Option Post) (outcome : Option Outcome) :
    (j.record ⟨.reply label r, post, outcome⟩).Backs endpoints token profile :=
  ⟨⟨.query endpoints (some token) .userProfile, r⟩, by simp [record, hj], rfl, hr⟩

end Journal

/-- The bearer with which a profile was asked for, if it is one that the task waits for. -/
def Task.bearer? : Task → Option (Option String)
  | .refresh sentWith => some sentWith
  | .profile _ t => some (some t)
  | _ => none

def Mutation.profile? : Mutation → Option Profile
  | .login _ p | .setProfile p => some p
  | _ => none

namespace Shell

def journal (s : Shell) (es : List Event) : Journal := (s.entries es).foldl Journal.record {}

/-- The journal knows the requests of the tasks, and where the profile comes from. -/
structure Owned (s : Shell) (j : Journal) : Prop where
  tasks : ∀ label task bearer, s.task? label = some task → task.bearer? = some bearer →
    j.awaiting label = some (.query s.endpoints bearer .userProfile)
  profile : ∀ p, s.store.session.profile = some p →
    ∃ t, s.store.session.token = some t ∧ j.Backs s.endpoints t p

private theorem Owned.tasks_step {s : Shell} {j : Journal} (h : s.Owned j) (e : Event) (label : String) (task : Task)
    (bearer : Option String) (ht : (s.step e).1.task? label = some task) (hb : task.bearer? = some bearer) :
    (j.record (s.entry e)).awaiting label = some (.query s.endpoints bearer .userProfile) := by
  rcases cases_of_task?_step ht with ⟨hne, hold⟩ | ⟨job, rfl, rfl⟩ | ⟨r, signIn, t, rfl, hold, -, rfl, hpost⟩
  · rw [Journal.awaiting_record_of_ne (x := s.entry e) hne]
    exact h.tasks label task bearer hold hb
  · simp only [Journal.record, entry, Event.label?, Function.update_self, post_step]
    cases job with
    | refresh =>
      obtain rfl : s.store.session.token = bearer := Option.some.inj hb
      rfl
    | query request shape => simp [Job.task, Task.bearer?] at hb
    | authenticate credentials => simp [Job.task, Task.bearer?] at hb
    | attempt credentials => simp [Job.task, Task.bearer?] at hb
  · -- the reply was a token, and the next request went out with it
    obtain rfl : some t = bearer := Option.some.inj hb
    simp only [Journal.record, entry, Event.label?, Function.update_self]
    exact hpost

/-- Only a reply brings a profile, if nobody sets one by hand. -/
private theorem eq_reply_of_profile? {s : Shell} {e : Event} {m : Mutation} {p : Profile} (hm : s.mutation? e = some m)
    (hb : e.byHand = false) (hp : m.profile? = some p) : ∃ label r, e = .reply label r := by
  cases e with
  | reply label r => exact ⟨label, r, rfl⟩
  | drop label => simp [mutation?] at hm
  | start label job =>
    cases job with
    | attempt credentials =>
      obtain rfl : Mutation.beginAttempt = m := Option.some.inj hm
      simp [Mutation.profile?] at hp
    | _ => simp [mutation?, Job.opening] at hm
  | move k =>
    cases k with
    | proceed => simp [mutation?] at hm
    | issue c =>
      cases c with
      | mutate m' =>
        obtain rfl : m' = m := Option.some.inj hm
        cases m' with
        | login token profile => simp [Event.byHand] at hb
        | setProfile profile => simp [Event.byHand] at hb
        | _ => simp [Mutation.profile?] at hp
      | _ => simp [mutation?] at hm

/-- A reply that brings a profile answers a request with the token that the session then holds. -/
private theorem Owned.backs_of_profile? {s : Shell} {j : Journal} (h : s.Owned j) {label : String} {r : Reply}
    {m : Mutation} {p : Profile} (hm : s.mutation? (.reply label r) = some m) (hp : m.profile? = some p) :
    ∃ t, (m = .login t p ∨ m = .setProfile p ∧ s.store.session.token = some t) ∧
      (j.record (s.entry (.reply label r))).Backs s.endpoints t p := by
  rcases cases_of_mutation?_reply hm with rfl | ⟨p', hr, ⟨t, ht, rfl⟩ | ⟨t, ht, htoken, rfl⟩⟩
  · simp [Mutation.profile?] at hp
  · obtain rfl : p' = p := Option.some.inj hp
    have hwait := h.tasks label _ (some t) ht rfl
    exact ⟨t, .inl rfl, Journal.backs_of_awaiting hwait hr _ _⟩
  · obtain rfl : p' = p := Option.some.inj hp
    have hwait := h.tasks label _ (some t) ht rfl
    exact ⟨t, .inr ⟨rfl, htoken⟩, Journal.backs_of_awaiting hwait hr _ _⟩

private theorem Owned.profile_step {s : Shell} {j : Journal} (h : s.Owned j) {e : Event} (hb : e.byHand = false)
    (p : Profile) (hp : (s.step e).1.store.session.profile = some p) :
    ∃ t, (s.step e).1.store.session.token = some t ∧ (j.record (s.entry e)).Backs s.endpoints t p := by
  have hkeep : s.store.session.profile = some p →
      ∃ t, s.store.session.token = some t ∧ (j.record (s.entry e)).Backs s.endpoints t p := by
    intro hold
    obtain ⟨t, htoken, hbacks⟩ := h.profile p hold
    exact ⟨t, htoken, hbacks.record _⟩
  rw [session_step] at hp ⊢
  cases hm : s.mutation? e with
  | none =>
    rw [hm] at hp
    exact hkeep hp
  | some m =>
    rw [hm, Option.elim_some] at hp
    rw [Option.elim_some]
    cases m with
    | restore => simp [Session.apply] at hp
    | signout => simp [Session.apply] at hp
    | beginAttempt => exact hkeep hp
    | endAttempt => exact hkeep hp
    | setProfile p' =>
      obtain rfl : p' = p := Option.some.inj hp
      obtain ⟨label, r, rfl⟩ := eq_reply_of_profile? hm hb rfl
      obtain ⟨t, hcase, hbacks⟩ := h.backs_of_profile? hm rfl
      have htoken : s.store.session.token = some t := by simpa using hcase
      exact ⟨t, htoken, hbacks⟩
    | login t p' =>
      obtain ⟨label, r, rfl⟩ := eq_reply_of_profile? hm hb rfl
      obtain ⟨t', hcase, hbacks⟩ := h.backs_of_profile? hm rfl
      obtain rfl : t = t' := by simpa using hcase
      -- a token that the storage refuses leaves the old owner
      simp only [Session.apply] at hp ⊢
      cases ho : s.store.storage.outcome (.save t) with
      | error e =>
        rw [ho] at hp
        exact hkeep hp
      | ok u =>
        rw [ho] at hp
        obtain rfl : p' = p := Option.some.inj hp
        exact ⟨t, rfl, hbacks⟩

private theorem Owned.step {s : Shell} {j : Journal} (h : s.Owned j) {e : Event} (hb : e.byHand = false) :
    (s.step e).1.Owned (j.record (s.entry e)) where
  tasks := by
    rw [endpoints_step]
    exact h.tasks_step e
  profile := by
    rw [endpoints_step]
    exact h.profile_step hb

private theorem Owned.run {s : Shell} {j : Journal} (h : s.Owned j) {es : List Event}
    (hes : ∀ e ∈ es, e.byHand = false) : (s.run es).Owned ((s.entries es).foldl Journal.record j) := by
  induction es generalizing s j with
  | nil => exact h
  | cons e es ih => exact ih (h.step (hes e (by simp))) fun d hd => hes d (by simp [hd])

@[simp] theorem endpoints_run (s : Shell) (es : List Event) : (s.run es).endpoints = s.endpoints := by
  induction es generalizing s with
  | nil => rfl
  | cons e es ih => rw [run_cons, ih, endpoints_step]

/-- The profile of a session was read out of the reply to a profile query with exactly the token that the session holds;
without a token there is none. -/
theorem profile_of_held_token {s : Shell} {es : List Event} (ht : s.tasks = []) (hp : s.store.session.profile = none)
    (hes : ∀ e ∈ es, e.byHand = false) :
    (∀ p, (s.run es).store.session.profile = some p →
      ∃ t, (s.run es).store.session.token = some t ∧ (s.journal es).Backs s.endpoints t p) ∧
    ((s.run es).store.session.token = none → (s.run es).store.session.profile = none) := by
  have hstart : s.Owned {} :=
    ⟨fun label task bearer h => by simp [task?, ht] at h, fun p h => by simp [hp] at h⟩
  have howner := (hstart.run hes).profile
  rw [endpoints_run] at howner
  refine ⟨howner, ?_⟩
  intro hnone
  cases hprofile : (s.run es).store.session.profile with
  | none => rfl
  | some p =>
    obtain ⟨t, htoken, -⟩ := howner p hprofile
    rw [hnone] at htoken
    simp at htoken

/-- Two users sign in one after the other, and the profile of the second one is refreshed; another refresh is answered
without the email, and another one with null. -/
theorem refreshed_profile_of_second_user :
    let s := new (.register { key := "token" }) ⟨"/query", "/login"⟩
    let es : List Event :=
      [.start "login" (.attempt ⟨"a", "1"⟩), .reply "login" (.response ⟨200, "[\"t\"]"⟩),
        .reply "login" (.response ⟨200, "\x7b\"data\":\x7b\"userProfile\":[\"a\"]\x7d\x7d"⟩),
        .move (.issue (.mutate .signout)), .start "login" (.attempt ⟨"b", "2"⟩),
        .reply "login" (.response ⟨200, "[\"u\"]"⟩),
        .reply "login" (.response ⟨200, "\x7b\"data\":\x7b\"userProfile\":[\"b\"]\x7d\x7d"⟩), .start "again" .refresh,
        .reply "again" (.response ⟨200, "\x7b\"data\":\x7b\"userProfile\":[\"c\"]\x7d\x7d"⟩), .start "again" .refresh,
        .reply "again" (.response ⟨200, "\x7b\"data\":\x7b\"userProfile\":\x7b\"name\":\"d\"\x7d\x7d\x7d"⟩),
        .start "again" .refresh, .reply "again" (.response ⟨200, "\x7b\"data\":[null]\x7d"⟩)]
    s.tasks = [] ∧ s.store.session.profile = none ∧ (∀ e ∈ es, e.byHand = false) ∧
      (s.run es).store.session.profile = some ⟨"c"⟩ ∧
      (s.run es).store.session.token = some "u" ∧
      ∃ t, (s.run es).store.session.token = some t ∧ (s.journal es).Backs s.endpoints t ⟨"c"⟩ := by
  intro s es
  have ht : s.tasks = [] := rfl
  have hp : s.store.session.profile = none := rfl
  have hes : ∀ e ∈ es, e.byHand = false := by decide
  have hprofile : (s.run es).store.session.profile = some ⟨"c"⟩ := by cbv
  have htoken : (s.run es).store.session.token = some "u" := by cbv
  have howner := (profile_of_held_token ht hp hes).1 ⟨"c"⟩ hprofile
  exact ⟨ht, hp, hes, hprofile, htoken, howner⟩

end Shell

end ConsoleShell
