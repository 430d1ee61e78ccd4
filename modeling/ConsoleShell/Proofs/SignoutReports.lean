import ConsoleShell.Proofs.AtomicSession
import ConsoleShell.Proofs.Delivery

/-!
# What the answer to a signout tells

A signout always clears the session, and it answers what the storage has said to the removal of the token. So from the
answer one can tell what is left: after an error the token is still kept, and a reload signs in again; otherwise nothing
is kept. The one exception is a read-only register that holds no token. It refuses the removal all the same, and the
answer is an error although there was nothing to remove.

* `Storage.cases_remove`: what the storage says to a removal, and what it keeps.
* `signout_answer`: the answer to a signout in any reachable state, against what a reload and later restores find.
-/

namespace ConsoleShell

namespace Storage

/-- A read-only register that holds no token. -/
def lockedEmpty : Storage → Bool
  | register r => r.readOnly && r.load.isNone
  | unreachable => false

/-- A removal is refused by a read-only register, which stays as it is, or nothing is kept after it. -/
theorem cases_remove (storage : Storage) :
    (∃ r, storage = .register r ∧ r.readOnly = true ∧ storage.outcome .remove = .error (.rejected r.key .removal) ∧
      storage.change .remove = storage) ∨
    (storage.outcome .remove = .ok () ∧ (storage.change .remove).load = none ∧ storage.lockedEmpty = false) := by
  cases storage with
  | unreachable => exact .inr ⟨rfl, rfl, rfl⟩
  | register r =>
    by_cases hr : r.readOnly
    · refine .inl ⟨r, rfl, hr, ?_, ?_⟩
      · simp [outcome, Register.outcome, hr]
      · simp [change, Register.change, hr]
    · refine .inr ⟨?_, ?_, ?_⟩
      · simp [outcome, Register.outcome, hr]
      · simp [change, load, Register.load_remove, hr]
      · simp [lockedEmpty, hr]

/-- A removal is refused iff the token is kept, or there was none that could have been removed. -/
private theorem remove_eq_error_iff (storage : Storage) : (∃ e, storage.outcome .remove = .error e) ↔
    (storage.change .remove).load.isSome ∨ storage.lockedEmpty := by
  rcases storage.cases_remove with ⟨r, rfl, hr, herror, hsame⟩ | ⟨hok, hnone, hfree⟩
  · rw [herror, hsame]
    cases hload : r.load <;> simp [load, lockedEmpty, hload, hr]
  · simp [hok, hnone, hfree]

private theorem load_remove_of_lockedEmpty {storage : Storage} (h : storage.lockedEmpty) :
    (storage.change .remove).load = none := by
  rcases storage.cases_remove with ⟨r, rfl, -, -, hsame⟩ | ⟨-, hnone, -⟩
  · rw [hsame]
    simp only [lockedEmpty, Bool.and_eq_true, Option.isNone_iff_eq_none] at h
    exact h.2
  · exact hnone

/-- What the storage says to a removal tells whether the token is kept, unless there is none and it is locked. -/
private theorem remove_tells_iff (storage : Storage) :
    ((∃ e, storage.outcome .remove = .error e) ↔ (storage.change .remove).load.isSome) ↔
      storage.lockedEmpty = false := by
  rw [remove_eq_error_iff]
  constructor
  · intro h
    by_contra hlocked
    have hlocked : storage.lockedEmpty = true := by simpa using hlocked
    have hsome := h.1 (.inr hlocked)
    rw [load_remove_of_lockedEmpty hlocked] at hsome
    simp at hsome
  · intro h
    simp [h]

private theorem refusal_of_remove {storage : Storage} {e : StorageError} (h : storage.outcome .remove = .error e) :
    storage.change .remove = storage ∧
      ∃ r, storage = .register r ∧ r.readOnly = true ∧ e = .rejected r.key .removal := by
  rcases storage.cases_remove with ⟨r, hs, hr, hrefused, hsame⟩ | ⟨hdone, -, -⟩
  · exact ⟨hsame, r, hs, hr, Except.error.inj (h.symm.trans hrefused)⟩
  · exact absurd (h.symm.trans hdone) (by simp)

end Storage

namespace Store

/-- The move may change the storage. -/
def Move.writes : Move → Bool
  | .issue (.mutate (.login _ _)) | .issue (.mutate .signout) | .issue (.change _) => true
  | _ => false

private theorem storage_move {s : Store} {m : Move} (h : m.writes = false) : (s.move m).1.storage = s.storage := by
  cases m with
  | proceed => exact storage_proceed s
  | issue c =>
    cases c with
    | mutate m =>
      rw [move, issue, storage_openRound]
      cases m with
      | login token profile => simp [Move.writes] at h
      | signout => simp [Move.writes] at h
      | _ => rfl
    | change c => simp [Move.writes] at h
    | _ => rfl

private theorem storage_run {s : Store} {ms : List Move} (h : ∀ m ∈ ms, m.writes = false) :
    (s.run ms).storage = s.storage := by
  induction ms generalizing s with
  | nil => rfl
  | cons m ms ih => rw [run_cons, ih fun n hn => h n (by simp [hn]), storage_move (h m (by simp))]

/-- Observers that return leave session and storage alone. -/
private theorem run_replicate_proceed_eq (s : Store) (n : Nat) :
    (s.run (List.replicate n .proceed)).session = s.session ∧
      (s.run (List.replicate n .proceed)).storage = s.storage := by
  induction n generalizing s with
  | zero => exact ⟨rfl, rfl⟩
  | succ n ih =>
    obtain ⟨hsession, hstorage⟩ := ih s.proceed.1
    rw [List.replicate_succ, run_cons]
    exact ⟨hsession.trans (session_proceed s), hstorage.trans (storage_proceed s)⟩

private theorem session_restore (s : Store) :
    (s.issue (.mutate .restore)).1.session = { token := s.storage.load } := by
  rw [issue, session_openRound]
  rfl

/-- The store after a signout and the return of so many observers. -/
def signedOut (s : Store) (returns : Nat) : Store :=
  (s.issue (.mutate .signout)).1.run (List.replicate returns .proceed)

private theorem session_signedOut (s : Store) (returns : Nat) : (s.signedOut returns).session = {} := by
  rw [signedOut, (run_replicate_proceed_eq _ _).1, issue, session_openRound]
  rfl

private theorem storage_signedOut (s : Store) (returns : Nat) :
    (s.signedOut returns).storage = s.storage.change .remove := by
  rw [signedOut, (run_replicate_proceed_eq _ _).2, issue, storage_openRound]
  rfl

private theorem snapshot_reload (s : Store) : s.reload.snapshot.authenticated = s.storage.load.isSome := rfl

/-- In any state that a run of a store can reach, a signout clears the session and answers what the storage has said to
the removal of the token. A reload, or a restore after further moves that leave the storage alone, finds what is kept.
The answer is an error iff a token is kept, and it is no error iff a reload is signed out, except over a read-only
register that holds no token: then it is an error, and nothing is kept. After an error the storage is what it was. -/
theorem signout_answer (storage : Storage) (ms : List Move) (returns : Nat) {later : List Move}
    (hlater : ∀ m ∈ later, m.writes = false) :
    let s := (new storage).run ms
    let answer := s.storage.outcome .remove
    let after := s.signedOut returns
    let kept := after.storage.load
    s.storage.report .signout = some answer ∧ after.session = {} ∧
    after.reload.session = { token := kept } ∧
    ((after.run later).issue (.mutate .restore)).1.session = { token := kept } ∧
    (((∃ e, answer = .error e) ↔ kept.isSome) ↔ s.storage.lockedEmpty = false) ∧
    ((answer = .ok () ↔ after.reload.snapshot.authenticated = false) ↔ s.storage.lockedEmpty = false) ∧
    (s.storage.lockedEmpty → (∃ e, answer = .error e) ∧ kept = none) ∧
    ∀ e, answer = .error e → after.storage = s.storage ∧
      ∃ r, s.storage = .register r ∧ r.readOnly = true ∧ e = .rejected r.key .removal := by
  intro s answer after kept
  have hafter : after.storage = s.storage.change .remove := storage_signedOut s returns
  have hexact : ((∃ e, answer = .error e) ↔ kept.isSome) ↔ s.storage.lockedEmpty = false := by
    rw [← s.storage.remove_tells_iff, ← hafter]
  have hok : answer = .ok () ↔ ¬ ∃ e, answer = .error e := by
    cases answer <;> simp
  refine ⟨rfl, session_signedOut s returns, rfl, ?_, hexact, ?_, ?_, ?_⟩
  · rw [session_restore, storage_run hlater]
  · -- the same equivalence, with both of its sides negated
    rw [← hexact, hok, snapshot_reload, ← Bool.not_eq_true, not_iff_not]
  · intro h
    refine ⟨s.storage.remove_eq_error_iff.2 (.inr h), ?_⟩
    exact (congrArg Storage.load hafter).trans (Storage.load_remove_of_lockedEmpty h)
  · intro e he
    obtain ⟨hsame, hregister⟩ := Storage.refusal_of_remove he
    exact ⟨hafter.trans hsame, hregister⟩

/-- A login, then the register becomes read-only: the signout is refused, and a restore in the midst of an attempt
brings the token back. -/
theorem signout_refused :
    let ms : List Move :=
      [.issue .subscribe, .issue (.mutate (.login "t" ⟨"a"⟩)), .proceed, .issue (.change (.setReadOnly true))]
    let later : List Move := [.issue (.mutate .beginAttempt), .proceed]
    let s := (new (.register { key := "token" })).run ms
    (∀ m ∈ later, m.writes = false) ∧ s.storage.lockedEmpty = false ∧ (s.signedOut 1).session = {} ∧
      s.storage.report .signout = some (.error (.rejected "token" .removal)) ∧
      (s.signedOut 1).storage.load.isSome ∧
      (((s.signedOut 1).run later).issue (.mutate .restore)).1.session = { token := some "t" } := by
  intro ms later s
  have hlater : ∀ m ∈ later, m.writes = false := by decide
  have hfree : s.storage.lockedEmpty = false := by decide
  have hrefused : s.storage.outcome .remove = .error (.rejected "token" .removal) := rfl
  have hkept : (s.signedOut 1).storage.load = some "t" := by decide
  obtain ⟨hreport, hsession, -, hrestore, hexact, -⟩ :=
    signout_answer (.register { key := "token" }) ms 1 hlater
  rw [hkept] at hrestore
  exact ⟨hlater, hfree, hsession, hreport.trans (congrArg some hrefused), (hexact.2 hfree).1 ⟨_, hrefused⟩, hrestore⟩

/-- A read-only register that has never held a token refuses the signout, and a reload is signed out. -/
theorem refused_with_nothing_kept :
    let s := new (.register { key := "token", readOnly := true })
    s.storage.report .signout = some (.error (.rejected "token" .removal)) ∧ (s.signedOut 0).session = {} ∧
      (s.signedOut 0).storage.load = none ∧ (s.signedOut 0).reload.snapshot = {} := by
  exact ⟨rfl, rfl, rfl, rfl⟩

end Store

end ConsoleShell
