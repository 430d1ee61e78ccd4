import ConsoleShell.Proofs.ObservedRuns
import ConsoleShell.Proofs.Renaming
import Mathlib

/-!
# What a shell shows of its tokens

Nothing that a shell shows depends on its tokens: not the states that observers are called with, not the answers to
commands and the outcomes of jobs, not its description, not the guard. Tokens come out only where they belong, in the
session, in the storage, in the requests, and in the grant of a job that asks for one.

Whoever acts on a shell, an observer in the middle of a call or the top level, may go by all that has been shown so far.
Two runs are `Alike` if the one goes on as the other does, but for the names of the tokens, as long as both have shown
the same.

* `face_rename`, `sight_rename`, `secret_rename`: a shell, and a step.
* `alike_iff`: runs that are alike are the same events with renamed tokens.
* `blind_to_tokens`: they show the same, and their tokens correspond.
-/

namespace ConsoleShell

/-- What comes back from a command to whoever gives it. -/
def Store.answer (s : Store) : Command → Answer
  | .mutate m => (s.storage.report m).elim .nothing .storage
  | .change (.save token) => .storage (s.storage.outcome (.save token))
  | .change .remove => .storage (s.storage.outcome .remove)
  | .unsubscribe id => .flag (s.registry.contains id)
  | .subscribe | .teardown | .change (.clear _) | .change (.setReadOnly _) => .nothing

/-- A step of an observer is answered with what comes back from its command. -/
theorem Watched.answer_act {w : Watched} {step : Step} {c : Command} (h : w.command? step = some c) :
    (w.act step).2.1 = w.store.answer c := by
  cases step with
  | unsubscribe label =>
    obtain ⟨id, hid, rfl⟩ := Option.map_eq_some_iff.1 h
    simp only [act, hid]
    rfl
  | change d =>
    obtain rfl := Option.some.inj h
    cases d <;> rfl
  | mutate m =>
    obtain rfl := Option.some.inj h
    rfl
  | teardown =>
    obtain rfl := Option.some.inj h
    rfl
  | subscribe label reaction =>
    obtain rfl := Option.some.inj h
    rfl
  | _ => simp [command?] at h

/-- The token that the outcome of a job hands over. -/
def Outcome.token? : Outcome → Option String
  | .granted (.ok g) => some g.token
  | _ => none

/-- The outcome without the token that it hands over. -/
def Outcome.blank (o : Outcome) : Outcome := o.rename fun _ => ""

namespace Shell

/-- What anyone can see of a shell who does not ask for the token. -/
structure Face where
  state : AuthState
  words : String
  registry : Registry
  /-- Which views the guard leads away from. -/
  guarded : View → Bool
  /-- The jobs that wait for a reply. -/
  waiting : List String

def face (s : Shell) : Face where
  state := s.store.snapshot
  words := s.store.describe
  registry := s.store.registry
  guarded := fun view => shouldRedirect view s.store.snapshot
  waiting := s.tasks.map (·.1)

/-- What an event shows: the shell after it, the observer called with a state, the answer to the command, the request
but for its token, and what a job has come to. -/
structure Sight where
  face : Face
  call : Option Call
  answer : Answer
  request : Option (String × Json)
  outcome : Option Outcome

/-- Where the tokens are after an event. -/
structure Secret where
  token : Option String
  stored : Option String
  /-- The token of the request that is posted. -/
  bearer : Option (Option String)
  granted : Option String

def answer (s : Shell) : Event → Answer
  | .move (.issue c) => s.store.answer c
  | _ => .nothing

def sight (s : Shell) (e : Event) : Sight where
  face := (s.step e).1.face
  call := (s.step e).2.call
  answer := s.answer e
  request := (s.step e).2.post.map fun p => (p.url, p.body)
  outcome := (s.step e).2.outcome.map (·.blank)

def secret (s : Shell) (e : Event) : Secret where
  token := (s.step e).1.store.session.token
  stored := (s.step e).1.store.storage.load
  bearer := (s.step e).2.post.map (·.bearer)
  granted := (s.step e).2.outcome.bind (·.token?)

def Secret.rename (ρ : String → String) (x : Secret) : Secret where
  token := x.token.map ρ
  stored := x.stored.map ρ
  bearer := x.bearer.map (·.map ρ)
  granted := x.granted.map ρ

/-- All that a run shows, in order. -/
def sights (s : Shell) (es : List Event) : List Sight := (s.trail es).map fun x => x.1.sight x.2

def secrets (s : Shell) (es : List Event) : List Secret := (s.trail es).map fun x => x.1.secret x.2

private theorem sights_cons (s : Shell) (e : Event) (es : List Event) :
    s.sights (e :: es) = s.sight e :: (s.step e).1.sights es := rfl

private theorem secrets_cons (s : Shell) (e : Event) (es : List Event) :
    s.secrets (e :: es) = s.secret e :: (s.step e).1.secrets es := rfl

/-- As long as both runs have shown the same, they go on with the same event, but for the names of the tokens. -/
def Alike (ρ : String → String) (s : Shell) (es es' : List Event) : Prop :=
  ∀ k, (s.rename ρ).sights (es'.take k) = s.sights (es.take k) →
    Option.Rel ((s.run (es.take k)).Renames ρ) es[k]? es'[k]?

section Step

variable {ρ : String → String}

private theorem describe_rename (s : Store) : (s.rename ρ).describe = s.describe := by
  have htoken : (s.rename ρ).session.token.isSome = s.session.token.isSome := Option.isSome_map
  unfold Store.describe
  rw [htoken]
  rfl

theorem face_rename (s : Shell) : (s.rename ρ).face = s.face := by
  simp only [face, rename, Store.snapshot_rename, describe_rename, List.map_map]
  rfl

private theorem answer_rename (s : Store) (c : Command) : (s.rename ρ).answer (c.rename ρ) = s.answer c := by
  cases c with
  | mutate m => simp only [Command.rename, Store.answer, Store.rename, Storage.report_rename]
  | change c =>
    cases c with
    | save token => exact congrArg Answer.storage (s.storage.outcome_rename ρ (.save token))
    | remove => exact congrArg Answer.storage (s.storage.outcome_rename ρ .remove)
    | _ => rfl
  | _ => rfl

private theorem blank_rename (o : Outcome) : (o.rename ρ).blank = o.blank := by
  cases o with
  | granted result => cases result <;> rfl
  | _ => rfl

private theorem token?_rename (o : Outcome) : (o.rename ρ).token? = o.token?.map ρ := by
  cases o with
  | granted result => cases result <;> rfl
  | _ => rfl

/-- A step shows the same whatever the tokens are. -/
theorem sight_rename (hρ : Function.Injective ρ) {s : Shell} {e e' : Event} (h : s.Renames ρ e e') :
    (s.rename ρ).sight e' = s.sight e := by
  have hanswer : (s.rename ρ).answer e' = s.answer e := by
    cases h with
    | move m =>
      cases m with
      | issue c => exact answer_rename s.store c
      | proceed => rfl
    | _ => rfl
  simp only [sight, step_rename hρ h, face_rename, hanswer]
  simp only [Effect.rename, Option.map_map, Function.comp_def, blank_rename, Post.rename]

/-- After a step, the tokens are where they were, under their new names. -/
theorem secret_rename (hρ : Function.Injective ρ) {s : Shell} {e e' : Event} (h : s.Renames ρ e e') :
    (s.rename ρ).secret e' = (s.secret e).rename ρ := by
  simp only [secret, step_rename hρ h]
  simp only [Secret.rename, rename, Store.rename, Session.rename, Storage.load_rename, Effect.rename, Post.rename,
    Option.map_map, Option.bind_map, Option.map_bind, Function.comp_def, token?_rename]

end Step

section Run

variable {ρ : String → String} (hρ : Function.Injective ρ) {s : Shell} {es es' : List Event}

include hρ

private theorem sights_rename (h : RenamesRun ρ s es es') : (s.rename ρ).sights es' = s.sights es := by
  induction h with
  | nil s => rfl
  | cons h hs ih => rw [sights_cons, sights_cons, sight_rename hρ h, step_rename hρ h, ih]

private theorem secrets_rename (h : RenamesRun ρ s es es') :
    (s.rename ρ).secrets es' = (s.secrets es).map (·.rename ρ) := by
  induction h with
  | nil s => rfl
  | cons h hs ih =>
    rw [secrets_cons, secrets_cons, List.map_cons, secret_rename hρ h, step_rename hρ h, ih]

/-- What goes on alike goes on alike from the second event on. -/
private theorem Alike.tail {e e' : Event} (h : Alike ρ s (e :: es) (e' :: es')) (he : s.Renames ρ e e') :
    Alike ρ (s.step e).1 es es' := by
  intro k hk
  -- the first event shows the same in both runs
  have hshown : (s.rename ρ).sights (e' :: es'.take k) = s.sights (e :: es.take k) := by
    rw [sights_cons, sights_cons, sight_rename hρ he, step_rename hρ he, hk]
  exact h (k + 1) hshown

/-- Runs that go on alike are the same but for the names of the tokens, since all that could tell them apart is what
they show. -/
theorem alike_iff : Alike ρ s es es' ↔ RenamesRun ρ s es es' := by
  constructor
  · intro h
    induction es generalizing s es' with
    | nil =>
      have h0 := h 0 rfl
      cases es' with
      | nil => exact .nil s
      | cons e' es' => cases h0
    | cons e es ih =>
      have h0 := h 0 rfl
      cases es' with
      | nil => cases h0
      | cons e' es' =>
        cases h0 with
        | some he => exact .cons he (ih (h.tail hρ he))
  · intro h k _
    exact h.getElem? k

end Run

/-- Let a shell hold its tokens under other names, different ones for different tokens, and let a run of it and one of
the shell as it was go on with the same events, but for these names, as long as both have shown the same. Then they show
the same throughout: the states and the calls of the observers, the description, what the guard says, the answers, the
requests, and what the jobs come to. The tokens of the session, of the storage, of the requests and of the grants are
those of the other run under their other names. -/
theorem blind_to_tokens {ρ : String → String} (hρ : Function.Injective ρ) {s : Shell} {es es' : List Event}
    (h : Alike ρ s es es') :
    (s.rename ρ).face = s.face ∧ (s.rename ρ).sights es' = s.sights es ∧
      (s.rename ρ).secrets es' = (s.secrets es).map (·.rename ρ) ∧
      (s.rename ρ).run es' = (s.run es).rename ρ :=
  have hrun := (alike_iff hρ).1 h
  ⟨face_rename s, sights_rename hρ hrun, secrets_rename hρ hrun, run_rename hρ hrun⟩

/-- A visitor whose stored token is empty, and one who has another token instead. The observer that is called when an
attempt begins signs in with the token that is there already, so that a refresh still finds the token that it was sent
with. -/
theorem blind_to_empty_token :
    let ρ (token : String) := "x" ++ token
    let events (token : String) (reply : Reply) : List Event :=
      [.move (.issue (.mutate .restore)), .move (.issue .subscribe), .start "again" .refresh,
        .start "login" (.attempt ⟨"b", "1"⟩), .move (.issue (.mutate (.login token ⟨"b"⟩))), .move .proceed,
        .move .proceed, .reply "again" (.response ⟨200, "\x7b\"data\":\x7b\"userProfile\":[\"a\"]\x7d\x7d"⟩),
        .move .proceed, .reply "login" reply]
    let s := new (.register (.holding "token" (some ""))) ⟨"/query", "/login"⟩
    let es := events "" (.response ⟨200, "[\"t\"]"⟩)
    let es' := events "x" (.response ⟨200, "\x7b\"token\":\"xt\"\x7d"⟩)
    let s' := new (.register (.holding "token" (some "x"))) ⟨"/query", "/login"⟩
    Function.Injective ρ ∧ s.rename ρ = s' ∧ Alike ρ s es es' ∧ s'.sights es' = s.sights es ∧
      (s.run es).store.snapshot.profile = some ⟨"a"⟩ ∧
      (s.secrets es).filterMap (·.bearer) = [some "", none, some "t"] ∧
      (s'.secrets es').filterMap (·.bearer) = [some "x", none, some "xt"] := by
  intro ρ events s es es' s'
  have hρ : Function.Injective ρ := fun a b h => (String.append_right_inj "x").1 h
  have hs : s.rename ρ = s' := rfl
  have hes : RenamesRun ρ s es es' :=
    .cons (.move _) <| .cons (.move _) <| .cons (.start ..) <| .cons (.start ..) <| .cons (.move _) <|
      .cons (.move _) <| .cons (.move _) <| .cons (.reply _ (by cbv)) <| .cons (.move _) <|
      .cons (.grant (t := "t") _ (by cbv) (by cbv)) (.nil _)
  have halike : Alike ρ s es es' := (alike_iff hρ).2 hes
  obtain ⟨-, hsights, hsecrets, -⟩ := blind_to_tokens hρ halike
  rw [hs] at hsights hsecrets
  have hbearers : (s.secrets es).filterMap (·.bearer) = [some "", none, some "t"] := by cbv
  have hbearers' : (s'.secrets es').filterMap (·.bearer) = ((s.secrets es).filterMap (·.bearer)).map (·.map ρ) := by
    rw [hsecrets, List.filterMap_map, List.map_filterMap]
    rfl
  rw [hbearers] at hbearers'
  exact ⟨hρ, hs, halike, hsights, by cbv, hbearers, hbearers'⟩

end Shell

end ConsoleShell
