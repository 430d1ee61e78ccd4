import ConsoleShell.Proofs.Subscriptions
import Mathlib.Data.List.Induction
import Mathlib.Data.List.Nodup

/-!
# Who is registered

Subscriptions are numbered from zero in the order in which they are made, and no unsubscribing or teardown takes a number
back. So the whole history of a store, whoever of the observers has given the commands, says who is registered: those whose
subscription has been followed neither by the end of that subscription nor by a teardown.

* `numbersGiven_eq`: the numbers that a run gives to its subscriptions.
* `mem_registry_run_iff`: an observer is registered exactly if it still `Remains`.
* `registry_of_run`: what the registry is after any run, and what each command makes of it.
-/

namespace ConsoleShell

namespace Registry

/-- Unsubscribing takes one number away and leaves the others in their order. -/
private theorem Ascending.unsubscribe_eq {r : Registry} (h : r.Ascending) (id : Nat) :
    r.unsubscribe id = { r with ids := r.ids.erase id } := by
  have hnodup : r.ids.Nodup := h.ids.imp Nat.ne_of_lt
  have hfilter : r.ids.filter (· ≠ id) = r.ids.filter (· != id) :=
    List.filter_congr fun i _ => by by_cases hi : i = id <;> simp [hi]
  rw [Registry.unsubscribe, hnodup.erase_eq_filter, hfilter]

/-- Something was unsubscribed if the registry has become smaller. -/
private theorem contains_iff_size_unsubscribe_ne (r : Registry) (id : Nat) :
    r.contains id = true ↔ (r.unsubscribe id).size ≠ r.size := by
  have hlength : (r.unsubscribe id).size = r.size ↔ ∀ i ∈ r.ids, i ≠ id := by
    rw [size, size, unsubscribe, List.length_filter_eq_length_iff]
    simp
  rw [ne_eq, hlength, contains, List.contains_iff_mem]
  constructor
  · exact fun hmem hall => hall id hmem rfl
  · intro h
    by_contra hmem
    exact h fun i hi hid => hmem (hid ▸ hi)

end Registry

namespace Store

/-- How many observers subscribe in a run. -/
def subscriptions (moves : List Move) : Nat := moves.count (.issue .subscribe)

/-- The number that a move gives to a new observer. -/
def numberGiven? (s : Store) : Move → Option Nat
  | .issue .subscribe => some s.registry.next
  | _ => none

/-- The numbers that a run gives to new observers, in order. -/
def numbersGiven (s : Store) : List Move → List Nat
  | [] => []
  | m :: ms => (s.numberGiven? m).toList ++ numbersGiven (s.move m).1 ms

/-- Only a subscription makes use of the next number. -/
private theorem next_move (s : Store) (m : Move) :
    (s.move m).1.registry.next = if m = .issue .subscribe then s.registry.next + 1 else s.registry.next := by
  cases m with
  | proceed => simp [move]
  | issue c =>
    cases c with
    | subscribe => rfl
    | mutate m => simp [move, issue, apply]
    | unsubscribe id => rfl
    | teardown => rfl
    | change c => rfl

private theorem next_run (s : Store) (ms : List Move) :
    (s.run ms).registry.next = s.registry.next + subscriptions ms := by
  induction ms generalizing s with
  | nil => rfl
  | cons m ms ih =>
    rw [run_cons, ih, next_move, subscriptions, subscriptions, List.count_cons]
    by_cases hm : m = .issue .subscribe
    · simp [hm]
      omega
    · simp [hm]

/-- Subscriptions are numbered one after the other, whatever happens between them. -/
theorem numbersGiven_eq (s : Store) (ms : List Move) :
    s.numbersGiven ms = List.range' s.registry.next (subscriptions ms) := by
  induction ms generalizing s with
  | nil => rfl
  | cons m ms ih =>
    rw [numbersGiven, ih, next_move, subscriptions, subscriptions, List.count_cons]
    by_cases hm : m = .issue .subscribe
    · subst hm
      simp [numberGiven?, List.range'_succ]
    · have hnone : s.numberGiven? m = none := by
        unfold numberGiven?
        split
        · exact absurd rfl hm
        · rfl
      simp [hm, hnone]

/-- In a run of a new store, an observer has subscribed under the number, and nothing has ended its subscription since. -/
def Remains (id : Nat) (moves : List Move) : Prop :=
  ∃ before after, moves = before ++ .issue .subscribe :: after ∧ subscriptions before = id ∧ ∀ m ∈ after, m.spares id

/-- An observer is registered after a move if it was before and is spared, or if it has just subscribed. -/
private theorem mem_registry_move_iff {s : Store} {m : Move} {id : Nat} : id ∈ (s.move m).1.registry.ids ↔
    (id ∈ s.registry.ids ∧ m.spares id) ∨ (m = .issue .subscribe ∧ id = s.registry.next) := by
  cases m with
  | proceed => simp [move, Move.spares]
  | issue c =>
    cases c with
    | mutate m => simp [move, issue, apply, Move.spares]
    | subscribe => simp [move, issue, Registry.subscribe, Move.spares]
    | unsubscribe i => simp [move, issue, Registry.unsubscribe, Move.spares, eq_comm (a := i)]
    | teardown => simp [move, issue, Registry.clear, Move.spares]
    | change c => simp [move, issue, Move.spares]

private theorem remains_concat_iff {id : Nat} {ms : List Move} {m : Move} : Remains id (ms ++ [m]) ↔
    (Remains id ms ∧ m.spares id) ∨ (m = .issue .subscribe ∧ id = subscriptions ms) := by
  constructor
  · rintro ⟨before, after, h, hid, hafter⟩
    rcases List.eq_nil_or_concat after with rfl | ⟨after, d, rfl⟩
    · obtain ⟨rfl, hlast⟩ := List.append_inj' h rfl
      exact .inr ⟨List.head_eq_of_cons_eq hlast, hid.symm⟩
    · rw [List.concat_eq_append, ← List.cons_append, ← List.append_assoc] at h
      obtain ⟨rfl, hlast⟩ := List.append_inj' h rfl
      obtain rfl : m = d := List.head_eq_of_cons_eq hlast
      exact .inl ⟨⟨before, after, rfl, hid, fun n hn => hafter n (by simp [hn])⟩, hafter m (by simp)⟩
  · rintro (⟨⟨before, after, rfl, hid, hafter⟩, hm⟩ | ⟨rfl, rfl⟩)
    · refine ⟨before, after ++ [m], by simp, hid, ?_⟩
      intro n hn
      rcases List.mem_append.1 hn with hn | hn
      · exact hafter n hn
      · rwa [List.mem_singleton.1 hn]
    · exact ⟨ms, [], rfl, rfl, by simp⟩

theorem mem_registry_run_iff (storage : Storage) (ms : List Move) (id : Nat) :
    id ∈ ((new storage).run ms).registry.ids ↔ Remains id ms := by
  induction ms using List.reverseRecOn with
  | nil => simp [new, Remains]
  | append_singleton ms m ih =>
    have hrun : (new storage).run (ms ++ [m]) = (((new storage).run ms).move m).1 := by rw [run_append]; rfl
    have hnext : ((new storage).run ms).registry.next = subscriptions ms := by
      rw [next_run]
      exact Nat.zero_add _
    rw [hrun, mem_registry_move_iff, remains_concat_iff, ih, hnext]

/-- Ascending numbers ascend as words of 64 bits, too, as long as they have no more than 64 bits. -/
private theorem words_ascending {numbers : List Nat} (h : numbers.Pairwise (· < ·))
    (hsize : ∀ n ∈ numbers, n < UInt64.size) : (numbers.map UInt64.ofNat).Pairwise (· < ·) := by
  rw [List.pairwise_map]
  refine h.imp_of_mem fun {a b} ha hb hab => ?_
  rw [UInt64.lt_iff_toNat_lt, UInt64.toNat_ofNat_of_lt' (hsize a ha), UInt64.toNat_ofNat_of_lt' (hsize b hb)]
  exact hab

/-- After any run of a new store, nested moves of observers included, with fewer subscriptions than there are words of 64
bits: the registered observers are those that remain, under ascending numbers below the next one. The subscriptions have
been given the numbers from zero on, and as words of 64 bits they ascend as well, so that none was given twice. From here
on, a subscription takes the next number and the last place; unsubscribing finds an observer if it remains, and takes just
that one away; a teardown takes all away but keeps the next number; and none of them touches anything else of the store or
calls anybody. -/
theorem registry_of_run (storage : Storage) {moves : List Move} (hfew : subscriptions moves < UInt64.size) :
    let s := (new storage).run moves
    let ids := s.registry.ids
    let next := s.registry.next
    let given := (new storage).numbersGiven moves
    ids.Pairwise (· < ·) ∧ (∀ id ∈ ids, id < next) ∧ next < UInt64.size ∧
      given = List.range next ∧ (given.map UInt64.ofNat).Pairwise (· < ·) ∧
      (∀ id, s.registry.contains id = true ↔ Remains id moves) ∧
      (∀ id, s.registry.contains id = true ↔ (s.registry.unsubscribe id).size ≠ s.registry.size) ∧
      s.issue .subscribe = ({ s with registry := ⟨ids ++ [next], next + 1⟩ }, none) ∧
      (∀ id, s.issue (.unsubscribe id) = ({ s with registry := ⟨ids.erase id, next⟩ }, none)) ∧
      s.issue .teardown = ({ s with registry := ⟨[], next⟩ }, none) := by
  intro s ids next given
  have hasc : s.registry.Ascending := ascending_run (ascending_new storage) moves
  have hnext : next = subscriptions moves := (next_run (new storage) moves).trans (Nat.zero_add _)
  have hsize : next < UInt64.size := hnext ▸ hfew
  have hgiven : given = List.range next := by
    rw [hnext, List.range_eq_range']
    exact numbersGiven_eq (new storage) moves
  refine ⟨hasc.ids, hasc.next, hsize, hgiven, ?_, ?_, s.registry.contains_iff_size_unsubscribe_ne, rfl, ?_, rfl⟩
  · rw [hgiven]
    exact words_ascending List.pairwise_lt_range fun n hn => Nat.lt_trans (List.mem_range.1 hn) hsize
  · intro id
    rw [Registry.contains, List.contains_iff_mem, mem_registry_run_iff]
  · intro id
    rw [issue, hasc.unsubscribe_eq]

/-- The first observer is told of an attempt, unsubscribes itself, and tears down the second one; a third one subscribes
before the call is over. -/
theorem third_remains :
    let moves : List Move :=
      [.issue .subscribe, .issue .subscribe, .issue (.mutate .beginAttempt), .issue (.unsubscribe 0), .issue .teardown,
        .issue .subscribe]
    let s := (new (.register { key := "token" })).run moves
    subscriptions moves < UInt64.size ∧ s.rounds ≠ [] ∧
      (new (.register { key := "token" })).numbersGiven moves = [0, 1, 2] ∧ Remains 2 moves ∧ ¬ Remains 1 moves ∧
      s.issue (.unsubscribe 2) = ({ s with registry := ⟨[], 3⟩ }, none) := by
  intro moves s
  have hfew : subscriptions moves < UInt64.size := by decide
  obtain ⟨-, -, -, hnumbers, -, hremains, -, -, herase, -⟩ := registry_of_run (.register { key := "token" }) hfew
  exact ⟨hfew, by decide, hnumbers.trans (by decide), (hremains 2).1 (by decide),
    fun h => absurd ((hremains 1).2 h) (by decide), (herase 2).trans (by decide)⟩

end Store

end ConsoleShell
