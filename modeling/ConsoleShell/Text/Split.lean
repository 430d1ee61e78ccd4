/-!
# Splitting a text at a separator

`splitAt sep` cuts a text at every occurrence of `sep` and always gives at least one piece, `joinWith sep` puts
pieces together again. Joining undoes splitting, and splitting undoes joining for pieces free of the separator.
-/

namespace ConsoleShell.Text

/-- The pieces between the occurrences of `sep`. -/
def splitAt (sep : Char) : List Char → List (List Char)
  | [] => [[]]
  | c :: cs =>
    if c = sep then [] :: splitAt sep cs
    else match splitAt sep cs with
      | [] => [[c]]
      | p :: ps => (c :: p) :: ps

/-- The pieces with `sep` between any two neighbours. -/
def joinWith (sep : Char) : List (List Char) → List Char
  | [] => []
  | [p] => p
  | p :: q :: ps => p ++ sep :: joinWith sep (q :: ps)

variable {sep : Char}

theorem splitAt_ne_nil (sep : Char) (cs : List Char) : splitAt sep cs ≠ [] := by
  cases cs with
  | nil => simp [splitAt]
  | cons c cs => rw [splitAt]; split; · simp
                 split <;> simp

private theorem joinWith_cons_head (c : Char) (p : List Char) (ps : List (List Char)) :
    joinWith sep ((c :: p) :: ps) = c :: joinWith sep (p :: ps) := by
  cases ps <;> simp [joinWith]

theorem joinWith_concat {sep : Char} {ps : List (List Char)} (hne : ps ≠ []) (p : List Char) :
    joinWith sep (ps ++ [p]) = joinWith sep ps ++ sep :: p := by
  induction ps with
  | nil => exact absurd rfl hne
  | cons q ps ih =>
    cases ps with
    | nil => rfl
    | cons r ps =>
      rw [List.cons_append, List.cons_append, joinWith, joinWith, ← List.cons_append, ih (by simp)]
      simp

theorem joinWith_splitAt (cs : List Char) : joinWith sep (splitAt sep cs) = cs := by
  induction cs with
  | nil => simp [splitAt, joinWith]
  | cons c cs ih =>
    rw [splitAt]
    split
    · rename_i h; subst h
      obtain ⟨p, ps, hp⟩ := List.exists_cons_of_ne_nil (splitAt_ne_nil c cs)
      rw [hp] at ih ⊢
      simp [joinWith, ih]
    · split
      · rename_i h; exact absurd h (splitAt_ne_nil sep cs)
      · rename_i p ps h; rw [joinWith_cons_head, ← h, ih]

theorem not_mem_of_mem_splitAt {cs p : List Char} (h : p ∈ splitAt sep cs) : sep ∉ p := by
  induction cs generalizing p with
  | nil => simp [splitAt] at h; simp [h]
  | cons c cs ih =>
    rw [splitAt] at h
    split at h
    · rcases List.mem_cons.mp h with rfl | h
      · simp
      · exact ih h
    · rename_i hc
      split at h
      · simp at h; subst h; simpa using Ne.symm hc
      · rename_i q qs hq
        rcases List.mem_cons.mp h with rfl | h
        · have := ih (p := q) (by simp [hq])
          simp [this, Ne.symm hc]
        · exact ih (by simp [hq, h])

private theorem splitAt_append {p cs : List Char} (h : sep ∉ p) :
    splitAt sep (p ++ sep :: cs) = p :: splitAt sep cs := by
  induction p with
  | nil => simp [splitAt]
  | cons c p ih =>
    simp only [List.mem_cons, not_or] at h
    simp [splitAt, Ne.symm h.1, ih h.2]

private theorem splitAt_of_not_mem {p : List Char} (h : sep ∉ p) : splitAt sep p = [p] := by
  induction p with
  | nil => simp [splitAt]
  | cons c p ih =>
    simp only [List.mem_cons, not_or] at h
    simp [splitAt, Ne.symm h.1, ih h.2]

theorem splitAt_joinWith {ps : List (List Char)} (hne : ps ≠ []) (h : ∀ p ∈ ps, sep ∉ p) :
    splitAt sep (joinWith sep ps) = ps := by
  induction ps with
  | nil => exact absurd rfl hne
  | cons p ps ih =>
    cases ps with
    | nil => exact splitAt_of_not_mem (h p (by simp))
    | cons q qs =>
      rw [joinWith, splitAt_append (h p (by simp)), ih (by simp) fun r hr => h r (by simp [hr])]

end ConsoleShell.Text
