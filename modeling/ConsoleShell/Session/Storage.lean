import ConsoleShell.Text.Keyed

/-!
# Where a token is kept

A register holds texts under keys and knows the one key under which the token is kept. While it is read-only it
refuses to write and to remove; entries can still be cleared from outside. Storage that cannot be reached finds
nothing, keeps nothing, and has nothing to remove.
-/

namespace ConsoleShell

open Text

inductive StorageAction
  | write
  | removal
  deriving DecidableEq

inductive StorageError
  | unavailable
  | rejected (key : String) (action : StorageAction)
  deriving DecidableEq

def StorageAction.word : StorageAction → String
  | .write => "write"
  | .removal => "removal"

def StorageError.message : StorageError → String
  | .unavailable => "token storage is unavailable"
  | .rejected key action => "token storage rejected the " ++ action.word ++ " of `" ++ key ++ "`"

/-- What a write or a removal comes to. -/
abbrev StorageResult := Except StorageError Unit

structure Register where
  key : String
  entries : Keyed String := []
  readOnly : Bool := false
  deriving DecidableEq

namespace Register

/-- A register that holds a token from an earlier visit, if one is given. -/
def holding (key : String) (token : Option String) : Register :=
  match token with
  | some t => { key := key, entries := [(key, t)] }
  | none => { key := key }

def get? (r : Register) (key : String) : Option String := r.entries.find? key

def load (r : Register) : Option String := r.get? r.key

inductive Change
  | save (token : String)
  | remove
  | clear (key : String)
  | setReadOnly (value : Bool)
  deriving DecidableEq

def change (r : Register) : Change → Register
  | .save token => if r.readOnly then r else { r with entries := r.entries.insert r.key token }
  | .remove => if r.readOnly then r else { r with entries := r.entries.erase r.key }
  | .clear key => { r with entries := r.entries.erase key }
  | .setReadOnly value => { r with readOnly := value }

/-- What a change comes to. Only writing and removing the token can fail. -/
def outcome (r : Register) : Change → StorageResult
  | .save _ => if r.readOnly then .error (.rejected r.key .write) else .ok ()
  | .remove => if r.readOnly then .error (.rejected r.key .removal) else .ok ()
  | _ => .ok ()

@[simp] theorem key_change (r : Register) (c : Change) : (r.change c).key = r.key := by
  cases c <;> simp only [change] <;> split <;> rfl

end Register

/-- What a session keeps its token in: a register, or storage that cannot be reached. -/
inductive Storage
  | register (r : Register)
  | unreachable
  deriving DecidableEq

namespace Storage

def get? (s : Storage) (key : String) : Option String :=
  match s with
  | register r => r.get? key
  | unreachable => none

def load : Storage → Option String
  | register r => r.load
  | unreachable => none

def change (s : Storage) (c : Register.Change) : Storage :=
  match s with
  | register r => register (r.change c)
  | unreachable => unreachable

/-- What a change comes to. Storage that cannot be reached refuses a token. -/
def outcome (s : Storage) (c : Register.Change) : StorageResult :=
  match s, c with
  | register r, c => r.outcome c
  | unreachable, .save _ => .error .unavailable
  | unreachable, _ => .ok ()

end Storage

/-- Several handles on one register, by number: whatever is done through one of them is seen through all. -/
structure Handles where
  register : Register
  count : Nat := 1
  deriving DecidableEq

namespace Handles

/-- A further handle; its number is the count before. -/
def clone (h : Handles) : Handles := { h with count := h.count + 1 }

/-- The token as a handle finds it; a number without a handle finds nothing. -/
def load (h : Handles) (handle : Nat) : Option String := if handle < h.count then h.register.load else none

def get? (h : Handles) (handle : Nat) (key : String) : Option String :=
  if handle < h.count then h.register.get? key else none

/-- A change through one of the handles. -/
def change (h : Handles) (handle : Nat) (c : Register.Change) : Handles :=
  if handle < h.count then { h with register := h.register.change c } else h

end Handles

end ConsoleShell
