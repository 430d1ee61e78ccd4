import ConsoleShell.Proofs.AtomicSession

/-!
# The last write counts

Whoever has a handle on a register can change it for all the others. What is found in it afterwards can be told from the
changes alone, each with what it came to, in the order in which they were made and whatever handles they were made
through: under every key, it is what the last change has left there that has replaced anything under that key.

* `latest?_eq_some_iff`: the entry of a history that counts is the last one that says anything.
* `entry_run`: what a register holds after a run, by the last change that counts.
* `last_write_decides`: what is found through any of the handles, and when changes are refused.
-/

namespace ConsoleShell

open Text

section Latest

variable {α β : Type} {f : α → Option β} {history : List α}

/-- What the last entry of a history says that says anything. -/
def latest? (f : α → Option β) (history : List α) : Option β := history.reverse.findSome? f

private theorem latest?_append (f : α → Option β) (before after : List α) :
    latest? f (before ++ after) = (latest? f after).or (latest? f before) := by
  rw [latest?, List.reverse_append, List.findSome?_append, latest?, latest?]

private theorem latest?_toList (f : α → Option β) (o : Option α) : latest? f o.toList = o.bind f := by
  cases o <;> simp [latest?]

theorem latest?_eq_some_iff {b : β} : latest? f history = some b ↔
    ∃ before a after, history = before ++ a :: after ∧ f a = some b ∧ ∀ x ∈ after, f x = none := by
  rw [latest?, List.findSome?_eq_some_iff]
  constructor
  · rintro ⟨after, a, before, h, ha, hafter⟩
    refine ⟨before.reverse, a, after.reverse, ?_, ha, fun x hx => hafter x (List.mem_reverse.1 hx)⟩
    rw [← List.reverse_reverse history, h]
    simp
  · rintro ⟨before, a, after, rfl, ha, hafter⟩
    exact ⟨after.reverse, a, before.reverse, by simp, ha, fun x hx => hafter x (List.mem_reverse.1 hx)⟩

private theorem latest?_eq_none_iff : latest? f history = none ↔ ∀ x ∈ history, f x = none := by
  simp [latest?, List.findSome?_eq_none_iff]

/-- What was there at first counts as long as no entry says anything. -/
private theorem getD_latest?_eq_iff {first b : β} : (latest? f history).getD first = b ↔
    (∃ before a after, history = before ++ a :: after ∧ f a = some b ∧ ∀ x ∈ after, f x = none) ∨
      (first = b ∧ ∀ x ∈ history, f x = none) := by
  rw [← latest?_eq_some_iff, ← latest?_eq_none_iff]
  cases latest? f history <;> simp

end Latest

namespace Register

/-- A change that has been made, with what it came to. -/
abbrev Made := Change × StorageResult

/-- The change has replaced what stood under the key of the token. -/
def replaces (own : String) : Made → Bool
  | (.save _, .ok ()) | (.remove, .ok ()) => true
  | (.clear key, _) => key = own
  | _ => false

/-- What the change has left under a key that it has replaced something under: a text, or nothing. -/
def left? (own key : String) : Made → Option (Option String)
  | (.save token, .ok ()) => if own = key then some (some token) else none
  | (.remove, .ok ()) => if own = key then some none else none
  | (.clear k, _) => if k = key then some none else none
  | _ => none

/-- The value that the change has given to the switch. -/
def switched? : Made → Option Bool
  | (.setReadOnly value, _) => some value
  | _ => none

private theorem get?_change (r : Register) (key : String) (c : Change) :
    (r.change c).get? key = (left? r.key key (c, r.outcome c)).getD (r.get? key) := by
  cases c with
  | save token =>
    by_cases hr : r.readOnly
    · simp [change, outcome, left?, hr]
    · simp only [change, outcome, hr, left?, get?, Keyed.find?_insert, Bool.false_eq_true, if_false]
      split <;> rfl
  | remove =>
    by_cases hr : r.readOnly
    · simp [change, outcome, left?, hr]
    · simp only [change, outcome, hr, left?, get?, Keyed.find?_erase, Bool.false_eq_true, if_false]
      split <;> rfl
  | clear k =>
    simp only [change, left?, get?, Keyed.find?_erase]
    split <;> rfl
  | setReadOnly value => rfl

private theorem readOnly_eq_switched (r : Register) (c : Change) :
    (r.change c).readOnly = (switched? (c, r.outcome c)).getD r.readOnly := by
  rw [r.readOnly_change]
  cases c <;> rfl

private theorem left?_eq_none_iff {own : String} {x : Made} : left? own own x = none ↔ replaces own x = false := by
  unfold left? replaces
  split <;> simp

/-- Only a save can leave a token. -/
private theorem left?_eq_token_iff {own token : String} {x : Made} :
    left? own own x = some (some token) ↔ x = (.save token, .ok ()) := by
  unfold left?
  split <;> simp_all

/-- Under other keys there is nothing but clearing. -/
private theorem left?_of_ne {own key : String} (h : key ≠ own) (x : Made) :
    left? own key x = if x.1 = .clear key then some none else none := by
  obtain ⟨c, result⟩ := x
  cases c with
  | save token => cases result <;> simp [left?, Ne.symm h]
  | remove => cases result <;> simp [left?, Ne.symm h]
  | clear k => simp [left?]
  | setReadOnly value => simp [left?]

end Register

open Register (Made replaces left? switched?)

namespace Handles

inductive Move
  | clone
  | change (handle : Nat) (c : Register.Change)
  deriving DecidableEq

def move (h : Handles) : Move → Handles
  | .clone => h.clone
  | .change handle c => h.change handle c

def run (h : Handles) (moves : List Move) : Handles := moves.foldl move h

/-- The change that a move makes, if it makes one. -/
def made? (h : Handles) : Move → Option Made
  | .clone => none
  | .change handle c => if handle < h.count then some (c, h.register.outcome c) else none

/-- The changes that a run makes through the handles that there are, in order. -/
def history (h : Handles) : List Move → List Made
  | [] => []
  | m :: ms => (h.made? m).toList ++ history (h.move m) ms

/-- A clone changes nothing, and a change is one of the register. -/
private theorem register_move (h : Handles) (m : Move) :
    (h.move m).register = (h.made? m).elim h.register fun x => h.register.change x.1 := by
  cases m with
  | clone => rfl
  | change handle c =>
    simp only [move, made?, change]
    split <;> rfl

private theorem key_move (h : Handles) (m : Move) : (h.move m).register.key = h.register.key := by
  rw [register_move]
  cases h.made? m with
  | none => rfl
  | some x => exact h.register.key_change x.1

private theorem key_run (h : Handles) (ms : List Move) : (h.run ms).register.key = h.register.key := by
  induction ms generalizing h with
  | nil => rfl
  | cons m ms ih => exact (ih (h.move m)).trans (h.key_move m)

private theorem eq_of_made? {h : Handles} {m : Move} {x : Made} (hx : h.made? m = some x) :
    x.2 = h.register.outcome x.1 := by
  cases m with
  | clone => cases hx
  | change handle c =>
    rw [made?] at hx
    split at hx
    · obtain rfl := Option.some.inj hx
      rfl
    · cases hx

/-- What is replaced by single changes is what the last of them says that replaces it. -/
theorem entry_run {β : Type} {own : String} (entry : Register → β) {f : Made → Option β}
    (hentry : ∀ r c, r.key = own → entry (r.change c) = (f (c, r.outcome c)).getD (entry r)) {h : Handles}
    (hkey : h.register.key = own) (ms : List Move) :
    entry (h.run ms).register = (latest? f (h.history ms)).getD (entry h.register) := by
  induction ms generalizing h with
  | nil => rfl
  | cons m ms ih =>
    have hmove : entry (h.move m).register = ((h.made? m).bind f).getD (entry h.register) := by
      rw [register_move]
      cases hm : h.made? m with
      | none => rfl
      | some x =>
        have hx := hentry h.register x.1 hkey
        rw [← eq_of_made? hm] at hx
        exact hx
    have hrun : h.run (m :: ms) = (h.move m).run ms := rfl
    rw [hrun, ih ((h.key_move m).trans hkey), hmove, history, latest?_append, latest?_toList]
    cases latest? f ((h.move m).history ms) <;> rfl

private theorem get?_run (h : Handles) (ms : List Move) (key : String) : (h.run ms).register.get? key =
    (latest? (left? h.register.key key) (h.history ms)).getD (h.register.get? key) :=
  entry_run (fun r => r.get? key) (fun r c hr => hr ▸ r.get?_change key c) rfl ms

private theorem readOnly_run (h : Handles) (ms : List Move) :
    (h.run ms).register.readOnly = (latest? switched? (h.history ms)).getD h.register.readOnly :=
  entry_run Register.readOnly (fun r c _ => r.readOnly_eq_switched c) rfl ms

/-! ### What is found through the handles -/

/-- The token is that of the last save, or the first one, unless it has been replaced since. -/
private theorem load_run_eq_some_iff (h : Handles) (ms : List Move) (token : String) :
    (h.run ms).register.load = some token ↔
      (∃ before after, h.history ms = before ++ (.save token, .ok ()) :: after ∧
        ∀ x ∈ after, replaces h.register.key x = false) ∨
      (h.register.load = some token ∧ ∀ x ∈ h.history ms, replaces h.register.key x = false) := by
  have hload : (h.run ms).register.load =
      (latest? (left? h.register.key h.register.key) (h.history ms)).getD h.register.load := by
    rw [Register.load, key_run]
    exact h.get?_run ms h.register.key
  rw [hload, getD_latest?_eq_iff]
  simp only [Register.left?_eq_none_iff, Register.left?_eq_token_iff]
  -- the entry that counts can only be the save
  refine or_congr_left ⟨?_, ?_⟩
  · rintro ⟨before, x, after, hsplit, rfl, hafter⟩
    exact ⟨before, after, hsplit, hafter⟩
  · rintro ⟨before, after, hsplit, hafter⟩
    exact ⟨before, _, after, hsplit, rfl, hafter⟩

/-- What stands under another key is there until it is cleared. -/
private theorem get?_run_of_ne (h : Handles) (ms : List Move) {key : String} (hne : key ≠ h.register.key) :
    (h.run ms).register.get? key = if .clear key ∈ (h.history ms).map (·.1) then none else h.register.get? key := by
  rw [get?_run]
  cases hlast : latest? (left? h.register.key key) (h.history ms) with
  | none =>
    have hnone := latest?_eq_none_iff.1 hlast
    simp only [Register.left?_of_ne hne] at hnone
    have hnot : .clear key ∉ (h.history ms).map (·.1) := by
      intro hmem
      obtain ⟨x, hx, hclear⟩ := List.mem_map.1 hmem
      have := hnone x hx
      simp [hclear] at this
    rw [if_neg hnot]
    rfl
  | some value =>
    obtain ⟨before, x, after, hsplit, hx, -⟩ := latest?_eq_some_iff.1 hlast
    rw [Register.left?_of_ne hne] at hx
    split at hx
    · rename_i hclear
      obtain rfl := Option.some.inj hx
      have hmem : .clear key ∈ (h.history ms).map (·.1) := by
        rw [hsplit]
        exact List.mem_map.2 ⟨x, by simp, hclear⟩
      rw [if_pos hmem]
      rfl
    · cases hx

/-- After any run over a register with any contents, whatever handles have been cloned and used: through every handle the
token is found that was saved last, or was there at first, if no removal that was carried out and no clearing of its key
has come after it, and none otherwise. Saves and removals are refused, with the key and the action, exactly if the register
was last switched to be read-only; they change nothing then. What stands under another key is there until it is cleared. -/
theorem last_write_decides (h : Handles) (ms : List Move) :
    let own := h.register.key
    let history := h.history ms
    let now := h.run ms
    let locked := (latest? switched? history).getD h.register.readOnly
    (∀ handle < now.count, ∀ token, now.load handle = some token ↔
      (∃ before after, history = before ++ (.save token, .ok ()) :: after ∧ ∀ x ∈ after, replaces own x = false) ∨
      (h.register.load = some token ∧ ∀ x ∈ history, replaces own x = false)) ∧
    (∀ token, now.register.outcome (.save token) = if locked then .error (.rejected own .write) else .ok ()) ∧
    (now.register.outcome .remove = if locked then .error (.rejected own .removal) else .ok ()) ∧
    (locked → ∀ handle token, now.change handle (.save token) = now ∧ now.change handle .remove = now) ∧
    ∀ handle < now.count, ∀ key, key ≠ own →
      now.get? handle key = if .clear key ∈ history.map (·.1) then none else h.register.get? key := by
  intro own history now locked
  have hlocked : now.register.readOnly = locked := readOnly_run h ms
  have hown : now.register.key = own := key_run h ms
  refine ⟨?_, ?_, ?_, ?_, ?_⟩
  · intro handle hhandle token
    rw [load, if_pos hhandle]
    exact load_run_eq_some_iff h ms token
  · intro token
    rw [Register.outcome, hlocked, hown]
  · rw [Register.outcome, hlocked, hown]
  · intro hlock handle token
    have hsame : ∀ c, now.register.change c = now.register → now.change handle c = now := by
      intro c hc
      rw [change, hc]
      split <;> rfl
    rw [hlock] at hlocked
    exact ⟨hsame _ (by rw [Register.change, if_pos hlocked]), hsame _ (by rw [Register.change, if_pos hlocked])⟩
  · intro handle hhandle key hkey
    rw [get?, if_pos hhandle]
    exact get?_run_of_ne h ms hkey

/-- A save through the first of two handles is refused, since the register has been locked through the other one; the next
save is found through both, and what has been cleared in the meantime through neither. -/
theorem found_through_both :
    let r : Register := { key := "token", entries := [("other", "x"), ("token", "a")] }
    let h : Handles := { register := r }
    let ms : List Move :=
      [.clone, .change 1 (.setReadOnly true), .change 0 (.save "b"), .change 0 (.clear "other"),
        .change 0 (.setReadOnly false), .change 1 (.save "c")]
    let now := h.run ms
    0 < now.count ∧ 1 < now.count ∧ "other" ≠ r.key ∧ now.load 0 = some "c" ∧ now.load 1 = some "c" ∧
      now.get? 0 "other" = none ∧ now.get? 1 "other" = none ∧
      (h.run (ms.take 2)).change 0 (.save "b") = h.run (ms.take 2) := by
  intro r h ms now
  have h0 : 0 < now.count := by decide
  have h1 : 1 < now.count := by decide
  have hother : "other" ≠ r.key := by decide
  obtain ⟨hload, -, -, -, hget⟩ := last_write_decides h ms
  obtain ⟨-, -, -, hlocked, -⟩ := last_write_decides h (ms.take 2)
  have hlast : h.history ms = (h.history ms).dropLast ++ [(.save "c", .ok ())] := rfl
  have hsaved : ∃ before after, h.history ms = before ++ (.save "c", .ok ()) :: after ∧
      ∀ x ∈ after, replaces r.key x = false := ⟨_, [], hlast, by simp⟩
  exact ⟨h0, h1, hother, (hload 0 h0 "c").2 (.inl hsaved), (hload 1 h1 "c").2 (.inl hsaved),
    (hget 0 h0 "other" hother).trans (by decide), (hget 1 h1 "other" hother).trans (by decide),
    (hlocked (by decide) 0 "b").1⟩

end Handles

end ConsoleShell
