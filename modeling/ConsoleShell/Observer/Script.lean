import ConsoleShell.Guard
import ConsoleShell.Session.Store

/-!
# Observers with a script

An observer may react to the state that is delivered to it: if its trigger holds and its reactions are not used up,
it takes the steps of its script, one after the other, before it returns. A step may subscribe a further observer
with a script of its own. Reactions are bounded in number, so what one delivery can lead to is bounded as well:
`Reaction.cost` counts it.
-/

namespace ConsoleShell

inductive Trigger
  | always
  | authenticated
  /-- Signed out with nothing under way. -/
  | signedOut
  | authenticating
  /-- Signed in without a profile. -/
  | noProfile
  | profile
  deriving DecidableEq

def Trigger.holds : Trigger → AuthState → Bool
  | .always, _ => true
  | .authenticated, s => s.authenticated
  | .signedOut, s => s.settledSignedOut
  | .authenticating, s => s.authenticating
  | .noProfile, s => s.authenticated && s.profile.isNone
  | .profile, s => s.profile.isSome

mutual

/-- Something an observer, or the top level, does to a store. -/
inductive Step
  | mutate (m : Mutation)
  | teardown
  | change (c : Register.Change)
  /-- Reads the storage under any key. -/
  | get (key : String)
  /-- Asks the guard about the state as it is now. -/
  | guard (view : View)
  | describe
  | pause
  | subscribe (label : String) (reaction : Option Reaction)
  /-- Ends the latest subscription under a label. -/
  | unsubscribe (label : String)

/-- When an observer reacts, how many times at most, and what it does each time. -/
inductive Reaction
  | mk (trigger : Trigger) (times : Nat) (steps : List Step)

end

inductive Answer
  | nothing
  | storage (result : StorageResult)
  | text (value : Option String)
  | flag (b : Bool)
  | words (s : String)
  /-- Nobody was ever subscribed under the label. -/
  | unknownLabel

mutual

/-- How many steps a step can lead to, itself included. -/
def Step.cost : Step → Nat
  | .subscribe _ (some r) => 1 + r.cost
  | _ => 1

/-- How many deliveries and steps an observer with this reaction can still lead to. -/
def Reaction.cost : Reaction → Nat
  | .mk _ times steps => times * (1 + stepsCost steps)

def stepsCost : List Step → Nat
  | [] => 0
  | s :: r => s.cost + stepsCost r

end

inductive Observer
  /-- Reacts to a trigger so many more times. -/
  | script (label : String) (trigger : Trigger) (times : Nat) (steps : List Step)
  /-- Shows the state delivered last, until it is disposed of. -/
  | signal (state : AuthState) (live : Bool)

namespace Observer

/-- The observer that a subscription under a label makes. -/
def ofReaction (label : String) : Option Reaction → Observer
  | some (.mk trigger times steps) => .script label trigger times steps
  | none => .script label .always 0 []

/-- How many deliveries and steps the observer can still lead to. -/
def cost : Observer → Nat
  | .script _ _ times steps => times * (1 + stepsCost steps)
  | .signal .. => 0

/-- The observer after a delivery, and the steps it takes in return. -/
def take (state : AuthState) : Observer → Observer × List Step
  | .script label trigger times steps =>
    if trigger.holds state && 0 < times then (.script label trigger (times - 1) steps, steps)
    else (.script label trigger times steps, [])
  | .signal shown live => (.signal (if live then state else shown) live, [])

theorem cost_take_le (state : AuthState) (o : Observer) :
    (o.take state).1.cost + stepsCost (o.take state).2 ≤ o.cost := by
  cases o with
  | script label trigger times steps =>
    simp only [take]
    split
    · rename_i h
      simp only [Bool.and_eq_true, decide_eq_true_eq] at h
      obtain ⟨n, rfl⟩ : ∃ n, times = n + 1 := ⟨times - 1, by omega⟩
      simp only [cost, Nat.add_sub_cancel, Nat.succ_mul]
      omega
    · simp [cost, stepsCost]
  | signal shown live => simp [take, cost, stepsCost]

theorem cost_ofReaction (label : String) (r : Option Reaction) :
    (ofReaction label r).cost + 1 = (Step.subscribe label r).cost := by
  cases r with
  | none => simp [ofReaction, cost, Step.cost]
  | some r => cases r; simp [ofReaction, cost, Step.cost, Reaction.cost]; omega

end Observer

theorem Step.cost_pos (s : Step) : 0 < s.cost := by
  unfold Step.cost; split <;> omega

end ConsoleShell
