import ConsoleShell.Session.Storage

/-!
# Sessions

A session holds the bearer token, the number of login attempts under way, and the profile; what its observers see does
not include the token. Six mutations change it, together with the storage that keeps the token:

* `restore` adopts the stored token and forgets the attempts and the profile;
* `login` ends one attempt and stores a new token with its profile; if the storage refuses the token, the session
  stays as it was but for the attempt;
* `signout` clears the session, whether or not the storage lets go of the token;
* `setProfile`, `beginAttempt` and `endAttempt` touch nothing else.
-/

namespace ConsoleShell

structure Profile where
  email : String
  deriving DecidableEq

/-- What is visible of a session; the token itself is not. -/
structure AuthState where
  authenticated : Bool := false
  authenticating : Bool := false
  profile : Option Profile := none
  deriving DecidableEq

/-- Signed out with nothing under way. -/
def AuthState.settledSignedOut (s : AuthState) : Bool := !s.authenticated && !s.authenticating

theorem AuthState.settledSignedOut_iff {s : AuthState} :
    s.settledSignedOut = true ↔ s.authenticated = false ∧ s.authenticating = false := by
  simp [settledSignedOut]

structure Session where
  token : Option String := none
  /-- The number of login attempts under way. -/
  attempts : UInt32 := 0
  profile : Option Profile := none
  deriving DecidableEq

inductive Mutation
  | restore
  | login (token : String) (profile : Profile)
  | signout
  | setProfile (profile : Profile)
  | beginAttempt
  | endAttempt
  deriving DecidableEq

namespace Session

/-- What observers see. -/
def snapshot (s : Session) : AuthState :=
  { authenticated := s.token.isSome, authenticating := 0 < s.attempts, profile := s.profile }

/-- One attempt fewer, but never less than none. -/
def fewerAttempts (n : UInt32) : UInt32 := if n = 0 then 0 else n - 1

def apply (s : Session) (storage : Storage) : Mutation → Session
  | .restore => { token := storage.load }
  | .login token profile =>
    match storage.outcome (.save token) with
    | .ok () => { token := some token, attempts := fewerAttempts s.attempts, profile := some profile }
    | .error _ => { s with attempts := fewerAttempts s.attempts }
  | .signout => {}
  | .setProfile profile => { s with profile := some profile }
  | .beginAttempt => { s with attempts := s.attempts + 1 }
  | .endAttempt => { s with attempts := fewerAttempts s.attempts }

end Session

namespace Storage

def apply (s : Storage) : Mutation → Storage
  | .login token _ => s.change (.save token)
  | .signout => s.change .remove
  | _ => s

/-- What the storage says to a mutation that writes to it. -/
def report (s : Storage) : Mutation → Option StorageResult
  | .login token _ => some (s.outcome (.save token))
  | .signout => some (s.outcome .remove)
  | _ => none

end Storage

theorem Session.fewerAttempts_toNat (n : UInt32) : (fewerAttempts n).toNat = n.toNat - 1 := by
  unfold fewerAttempts
  split
  · rename_i h; subst h; rfl
  · rename_i h
    have h1 : 1 ≤ n := by
      rw [UInt32.le_iff_toNat_le]
      have : n.toNat ≠ 0 := fun h0 => h (UInt32.toNat_inj.mp (by simpa using h0))
      show 1 ≤ n.toNat
      omega
    rw [UInt32.toNat_sub_of_le _ _ h1]
    rfl

end ConsoleShell
