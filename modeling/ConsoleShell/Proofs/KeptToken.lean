import ConsoleShell.Proofs.AtomicSession
import ConsoleShell.Proofs.Delivery
import Mathlib.Data.List.Induction

/-!
# The token that is held and the token that is kept

A login has its token stored before the session takes it, and a signout clears the session whether or not the stored
token can be removed. So over a register that nobody else writes to, the two part ways in one case only: a signout fails.
The next restore, login or signout that succeeds brings them together again.

* `TokenTurn`: what one event can do to the two tokens.
* `token_run_of_restored`: once a session has been restored, it holds the token that is kept, or none while a failed
  signout is outstanding.
* `memory_agrees_with_storage`: what follows for reloads and for further restores.
-/

namespace ConsoleShell

namespace Storage

/-- The storage refuses a signout. -/
def refusesSignout (s : Storage) : Mutation → Bool
  | .signout => !(s.outcome .remove).isOk
  | _ => false

/-- A restore, or a login or a signout that the storage accepts. -/
def reconciles (s : Storage) : Mutation → Bool
  | .restore => true
  | .login token _ => (s.outcome (.save token)).isOk
  | .signout => (s.outcome .remove).isOk
  | .setProfile _ | .beginAttempt | .endAttempt => false

end Storage

private theorem Register.isOk_save (r : Register) (token : String) :
    ((Storage.register r).outcome (.save token)).isOk = !r.readOnly := by
  cases hro : r.readOnly <;> simp [Storage.outcome, outcome, hro, Except.isOk, Except.toBool]

private theorem Register.isOk_remove (r : Register) : ((Storage.register r).outcome .remove).isOk = !r.readOnly := by
  cases hro : r.readOnly <;> simp [Storage.outcome, outcome, hro, Except.isOk, Except.toBool]

/-- What becomes of the token that is held and the token that is kept. -/
inductive TokenTurn : (refuses reconciles : Bool) → (h h' : Holdings) → Prop
  /-- The session gives its token up, whatever is kept. -/
  | parts {h h' : Holdings} (ht : h'.token = none) : TokenTurn true false h h'
  /-- Afterwards they are the same. -/
  | meets {h h' : Holdings} (ht : h'.token = h'.stored) : TokenTurn false true h h'
  /-- They are what they were. -/
  | keeps {h h' : Holdings} (ht : h'.token = h.token) (hs : h'.stored = h.stored) : TokenTurn false false h h'

private theorem Register.tokenTurn (r : Register) (h : Holdings) (m : Mutation) :
    TokenTurn ((Storage.register r).refusesSignout m) ((Storage.register r).reconciles m) h
      ((m.commit? r.readOnly).elim h (h.after r.readOnly)) := by
  cases m with
  | restore => exact .meets rfl
  | login token profile =>
    simp only [Storage.refusesSignout, Storage.reconciles, r.isOk_save]
    cases r.readOnly with
    | false => exact .meets rfl
    | true => exact .keeps rfl rfl
  | signout =>
    simp only [Storage.refusesSignout, Storage.reconciles, r.isOk_remove]
    cases r.readOnly with
    | false => exact .meets rfl
    | true => exact .parts rfl
  | setProfile p => exact .keeps rfl rfl
  | beginAttempt => exact .keeps rfl rfl
  | endAttempt => exact .keeps rfl rfl

namespace Shell

/-- The event writes, removes or clears what is kept under the key, past the session. -/
def Event.meddles (key : String) (e : Event) : Bool := e.writes || e.change? = some (.clear key)

/-- The event is a signout that the storage refuses. -/
def failsSignout (s : Shell) (e : Event) : Bool := (s.mutation? e).any s.store.storage.refusesSignout

/-- With the event, session and storage are brought together. -/
def reconciles (s : Shell) (e : Event) : Bool := (s.mutation? e).any s.store.storage.reconciles

private theorem tokenTurn_change {s : Shell} {r : Register} (hr : s.store.storage = .register r) {c : Register.Change}
    (hm : (Event.move (.issue (.change c))).meddles r.key = false) :
    TokenTurn false false s.holdings (s.step (.move (.issue (.change c)))).1.holdings := by
  have hload := holdings_change hr c
  have hkept : s.holdings.stored = r.load := by rw [holdings, hr]; rfl
  refine .keeps (by rw [hload]) ?_
  rw [hload, hkept]
  cases c with
  | save token => simp [Event.meddles, Event.writes] at hm
  | remove => simp [Event.meddles, Event.writes] at hm
  | setReadOnly value => rfl
  | clear key =>
    have hkey : key ≠ r.key := by simpa [Event.meddles, Event.writes, Event.change?] using hm
    exact (r.load_clear key).trans (if_neg hkey)

private theorem tokenTurn_step {s : Shell} {r : Register} (hr : s.store.storage = .register r) {e : Event}
    (hm : e.meddles r.key = false) :
    TokenTurn (s.failsSignout e) (s.reconciles e) s.holdings (s.step e).1.holdings := by
  cases hc : e.change? with
  | some c =>
    obtain rfl := Event.eq_of_change? hc
    exact tokenTurn_change hr hm
  | none =>
    rw [holdings_step hr hc, failsSignout, reconciles, hr]
    cases s.mutation? e with
    | none => exact .keeps rfl rfl
    | some m => exact r.tokenTurn s.holdings m

/-- In the run, a signout has failed, and nothing has brought session and storage together since. -/
def SignoutOutstanding (s : Shell) (es : List Event) : Prop :=
  ∃ pre x post, s.trail es = pre ++ x :: post ∧ x.1.failsSignout x.2 ∧ ∀ y ∈ post, y.1.reconciles y.2 = false

private theorem not_signoutOutstanding_nil (s : Shell) : ¬ s.SignoutOutstanding [] := by
  rintro ⟨pre, x, post, h, -⟩
  simp [trail] at h

private theorem signoutOutstanding_concat {s : Shell} {es : List Event} {e : Event} :
    s.SignoutOutstanding (es ++ [e]) ↔
      (s.run es).failsSignout e ∨ ((s.run es).reconciles e = false ∧ s.SignoutOutstanding es) := by
  have htrail : s.trail (es ++ [e]) = s.trail es ++ [(s.run es, e)] := trail_append s es [e]
  constructor
  · rintro ⟨pre, x, post, h, hx, hpost⟩
    rw [htrail] at h
    rcases List.eq_nil_or_concat post with rfl | ⟨post, y, rfl⟩
    · obtain ⟨-, hlast⟩ := List.append_inj' h rfl
      obtain rfl : (s.run es, e) = x := by simpa using hlast
      exact .inl hx
    · rw [List.concat_eq_append, ← List.cons_append, ← List.append_assoc] at h
      obtain ⟨hes, hlast⟩ := List.append_inj' h rfl
      obtain rfl : (s.run es, e) = y := by simpa using hlast
      exact .inr ⟨hpost (s.run es, e) (by simp), pre, x, post, hes, hx, fun z hz => hpost z (by simp [hz])⟩
  · rintro (hx | ⟨hy, pre, x, post, hes, hx, hpost⟩)
    · exact ⟨s.trail es, _, [], htrail, hx, by simp⟩
    · refine ⟨pre, x, post ++ [(s.run es, e)], by rw [htrail, hes]; simp, hx, ?_⟩
      intro z hz
      rcases List.mem_append.1 hz with hz | hz
      · exact hpost z hz
      · obtain rfl : z = (s.run es, e) := by simpa using hz
        exact hy

private theorem register_run {s : Shell} {r : Register} (hr : s.store.storage = .register r) (es : List Event) :
    ∃ r', (s.run es).store.storage = .register r' ∧ r'.key = r.key := by
  have hstep : ∀ (t : Shell) (e : Event), (∃ r', t.store.storage = .register r' ∧ r'.key = r.key) →
      ∃ r', (t.step e).1.store.storage = .register r' ∧ r'.key = r.key := by
    rintro t e ⟨r₁, hr₁, hkey₁⟩
    obtain ⟨r₂, hr₂, hkey₂, -⟩ := register_step hr₁ e
    exact ⟨r₂, hr₂, hkey₂.trans hkey₁⟩
  exact kept_run hstep ⟨r, hr, rfl⟩ es

theorem token_run_of_restored {s : Shell} {r : Register} {es : List Event} (hr : s.store.storage = .register r)
    (hes : ∀ e ∈ es, e.meddles r.key = false) (hs : s.holdings.token = s.holdings.stored) :
    (s.SignoutOutstanding es → (s.run es).holdings.token = none) ∧
      (¬ s.SignoutOutstanding es → (s.run es).holdings.token = (s.run es).holdings.stored) := by
  induction es using List.reverseRecOn with
  | nil => exact ⟨fun h => absurd h (not_signoutOutstanding_nil s), fun _ => hs⟩
  | append_singleton es e ih =>
    obtain ⟨hout, hnot⟩ := ih fun d hd => hes d (by simp [hd])
    obtain ⟨r', hr', hkey⟩ := register_run hr es
    have hm : e.meddles r'.key = false := by rw [hkey]; exact hes e (by simp)
    have hrun : s.run (es ++ [e]) = ((s.run es).step e).1 := by rw [run_append]; rfl
    rw [hrun, signoutOutstanding_concat]
    have hturn := tokenTurn_step hr' hm
    generalize (s.run es).failsSignout e = fails at hturn
    generalize (s.run es).reconciles e = meets at hturn
    cases hturn with
    | parts ht => exact ⟨fun _ => ht, fun h => absurd (.inl rfl) h⟩
    | meets ht => exact ⟨fun h => by simp at h, fun _ => ht⟩
    | keeps ht hs =>
      rw [ht, hs]
      exact ⟨fun h => hout (by simpa using h), fun h => hnot (by simpa using h)⟩

/-- After a first restore, with nobody else writing to the register: the session holds the token that is kept, or nothing
while a failed signout is outstanding. A reload, or another restore, takes up what is kept and shows nothing else until
the next mutation; without an outstanding signout, the session has shown the same all along. -/
theorem memory_agrees_with_storage {s : Shell} {r : Register} {es : List Event} (hr : s.store.storage = .register r)
    (hes : ∀ e ∈ es, e.meddles r.key = false) :
    let restore : Event := .move (.issue (.mutate .restore))
    let begun := (s.step restore).1
    let now := begun.run es
    let kept := now.store.storage.get? r.key
    let restored : AuthState := { authenticated := kept.isSome, authenticating := false, profile := none }
    (∀ token, now.store.session.token = some token → kept = some token) ∧
      (∀ token, now.store.session.token = none → kept = some token → begun.SignoutOutstanding es) ∧
      now.store.reload.snapshot = restored ∧
      (∀ ms : List Store.Move, (∀ m ∈ ms, m.mutates = false) →
        ((now.step restore).1.store.run ms).snapshot = restored) ∧
      (¬ begun.SignoutOutstanding es → now.store.snapshot.authenticated = restored.authenticated) := by
  intro restore begun now kept restored
  have hbegun : begun.store.storage = .register r := by rw [storage_step]; exact hr
  obtain ⟨r', hr', hkey⟩ := register_run hbegun es
  have hkept : kept = now.holdings.stored := by
    show now.store.storage.get? r.key = now.store.storage.load
    rw [hr', ← hkey]
    rfl
  have hsame : begun.holdings.token = begun.holdings.stored := by
    have hstep : begun.holdings = ⟨s.holdings.stored, none, s.holdings.stored⟩ := holdings_step hr rfl
    rw [hstep]
  obtain ⟨hout, hnot⟩ := token_run_of_restored hbegun hes hsame
  have hnot' : ¬ begun.SignoutOutstanding es → now.store.session.token = kept := fun h => (hnot h).trans hkept.symm
  have hstored : now.store.storage.load = kept := hkept.symm
  refine ⟨?_, ?_, ?_, ?_, ?_⟩
  · intro token htoken
    by_cases h : begun.SignoutOutstanding es
    · have hnone : now.store.session.token = none := hout h
      rw [hnone] at htoken
      simp at htoken
    · rw [← hnot' h, htoken]
  · intro token htoken hk
    by_contra h
    rw [hnot' h, hk] at htoken
    simp at htoken
  · show ({ authenticated := now.store.storage.load.isSome } : AuthState) = restored
    rw [hstored]
  · intro ms hms
    rw [Store.snapshot_run hms, Store.snapshot, session_step]
    show ({ authenticated := now.store.storage.load.isSome } : AuthState) = restored
    rw [hstored]
  · intro h
    show now.store.session.token.isSome = kept.isSome
    rw [hnot' h]

/-- An observer signs in when it is told of an attempt; the storage then becomes read-only, and the signout that follows
fails. -/
theorem kept_after_failed_signout :
    let r : Register := { key := "token" }
    let s := new (.register r) ⟨"/query", "/login"⟩
    let es : List Event :=
      [.move (.issue .subscribe), .move (.issue (.mutate .beginAttempt)),
        .move (.issue (.mutate (.login "t" ⟨"a"⟩))), .move .proceed, .move .proceed,
        .move (.issue (.change (.setReadOnly true))), .move (.issue (.mutate .signout)), .move .proceed]
    let restore : Event := .move (.issue (.mutate .restore))
    let begun := (s.step restore).1
    let now := begun.run es
    s.store.storage = .register r ∧ (∀ e ∈ es, e.meddles r.key = false) ∧
      now.store.session.token = none ∧ now.store.storage.get? r.key = some "t" ∧ begun.SignoutOutstanding es ∧
      now.store.reload.snapshot = { authenticated := true, authenticating := false, profile := none } := by
  intro r s es restore begun now
  have hr : s.store.storage = .register r := rfl
  have hes : ∀ e ∈ es, e.meddles r.key = false := by decide
  have htoken : now.store.session.token = none := by decide
  have hkept : now.store.storage.get? r.key = some "t" := by decide
  have h := memory_agrees_with_storage hr hes
  exact ⟨hr, hes, htoken, hkept, h.2.1 "t" htoken hkept, by decide⟩

end Shell

end ConsoleShell
