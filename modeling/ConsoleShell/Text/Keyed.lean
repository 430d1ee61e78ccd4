/-!
# Keyed collections

A `Keyed α` lists values under text keys in ascending order of the keys (by code point), each key at most once.
`insert` keeps this order and replaces the value of a key that is already there.
-/

namespace ConsoleShell.Text

abbrev Keyed (α : Type) := List (String × α)

namespace Keyed

variable {α : Type}

def find? (key : String) : Keyed α → Option α
  | [] => none
  | (k, v) :: r => if k = key then some v else find? key r

/-- Puts `value` under `key`, in place of a value that is there already. -/
def insert (key : String) (value : α) : Keyed α → Keyed α
  | [] => [(key, value)]
  | (k, v) :: r =>
    if key < k then (key, value) :: (k, v) :: r
    else if k = key then (key, value) :: r
    else (k, v) :: insert key value r

/-- Takes away what stands under `key`. -/
def erase (key : String) (fields : Keyed α) : Keyed α := fields.filter fun f => f.1 ≠ key

/-- Inserts the pairs in order, so that the last value of a key is kept. -/
def ofPairs (pairs : List (String × α)) : Keyed α :=
  pairs.foldl (fun fields p => insert p.1 p.2 fields) []

/-- Replaces every value, with regard to its key. -/
def mapValues {β : Type} (g : String → α → β) (fields : Keyed α) : Keyed β := fields.map fun f => (f.1, g f.1 f.2)

/-- The keys stand in strictly ascending order. -/
def Ascending (fields : Keyed α) : Prop := (fields.map (·.1)).Pairwise (· < ·)

instance (fields : Keyed α) : Decidable fields.Ascending :=
  inferInstanceAs (Decidable ((fields.map (·.1)).Pairwise (· < ·)))

@[simp] theorem find?_nil (key : String) : find? key ([] : Keyed α) = none := rfl

theorem find?_insert (key other : String) (value : α) (fields : Keyed α) :
    find? other (insert key value fields) = if key = other then some value else find? other fields := by
  induction fields with
  | nil => rfl
  | cons f r ih =>
    obtain ⟨k, v⟩ := f
    rw [insert]
    split
    · simp [find?]
    · split
      · rename_i hk; subst hk; simp only [find?]; split <;> rfl
      · rename_i hk
        simp only [find?, ih]
        by_cases h1 : k = other
        · have h2 : key ≠ other := fun h => hk (h1.trans h.symm)
          simp [h1, h2]
        · simp [h1]

theorem erase_cons (key : String) (f : String × α) (fields : Keyed α) :
    erase key (f :: fields) = if f.1 = key then erase key fields else f :: erase key fields := by
  by_cases hk : f.1 = key <;> simp [erase, hk]

theorem find?_erase (key other : String) (fields : Keyed α) :
    find? other (erase key fields) = if key = other then none else find? other fields := by
  induction fields with
  | nil => simp [erase, find?]
  | cons f r ih =>
    obtain ⟨k, v⟩ := f
    rw [erase_cons]
    by_cases hk : k = key
    · subst hk
      simp only [if_true, ih, find?]
      split <;> rfl
    · simp only [hk, if_false, find?, ih]
      by_cases h : k = other
      · have hne : key ≠ other := fun h2 => hk (h.trans h2.symm)
        simp [h, hne]
      · simp [h]

section MapValues

variable {β : Type} (g : String → α → β)

theorem find?_mapValues (key : String) (fields : Keyed α) :
    find? key (fields.mapValues g) = (find? key fields).map (g key) := by
  induction fields with
  | nil => rfl
  | cons f r ih =>
    by_cases hk : f.1 = key
    · subst hk
      simp [mapValues, find?]
    · simp only [mapValues] at ih ⊢
      simp [find?, hk, ih]

theorem mapValues_insert (key : String) (value : α) (fields : Keyed α) :
    (fields.insert key value).mapValues g = (fields.mapValues g).insert key (g key value) := by
  induction fields with
  | nil => rfl
  | cons f r ih =>
    simp only [mapValues, List.map_cons, insert] at ih ⊢
    split
    · rfl
    · split
      · rfl
      · rw [List.map_cons, ih]

theorem mapValues_erase (key : String) (fields : Keyed α) :
    (fields.erase key).mapValues g = (fields.mapValues g).erase key := by
  rw [erase, mapValues, erase, mapValues, List.filter_map]
  rfl

end MapValues

/-! ### Ascending keys -/

theorem ascending_nil : Ascending ([] : Keyed α) := List.Pairwise.nil

theorem ascending_cons {f : String × α} {fields : Keyed α} :
    Ascending (f :: fields) ↔ (∀ g ∈ fields, f.1 < g.1) ∧ Ascending fields := by
  simp [Ascending, List.pairwise_cons]

theorem isSome_find?_iff {key : String} {fields : Keyed α} :
    (find? key fields).isSome ↔ key ∈ fields.map (·.1) := by
  induction fields with
  | nil => simp
  | cons f r ih =>
    obtain ⟨k, v⟩ := f
    by_cases hk : k = key
    · simp [find?, hk]
    · simp [find?, hk, Ne.symm hk, ih]

/-- Nothing is taken away if nothing stands under the key. -/
theorem erase_of_find?_eq_none {key : String} {fields : Keyed α} (h : find? key fields = none) :
    fields.erase key = fields := by
  have hnot : key ∉ fields.map (·.1) := by
    rw [← isSome_find?_iff, h]
    simp
  refine List.filter_eq_self.2 fun f hf => ?_
  have hne : f.1 ≠ key := fun hk => hnot (List.mem_map.2 ⟨f, hf, hk⟩)
  simpa using hne

theorem mem_of_find? {key : String} {value : α} {fields : Keyed α} (h : find? key fields = some value) :
    (key, value) ∈ fields := by
  induction fields with
  | nil => simp at h
  | cons f r ih =>
    obtain ⟨k, v⟩ := f
    by_cases hk : k = key
    · subst hk
      simp only [find?, if_true, Option.some.injEq] at h
      subst h
      exact List.mem_cons_self
    · simp only [find?, hk, if_false] at h
      exact List.mem_cons_of_mem _ (ih h)

/-- A key that stands before all others is not found among them. -/
theorem find?_eq_none_of_lt {key : String} {fields : Keyed α} (h : ∀ f ∈ fields, key < f.1) :
    find? key fields = none := by
  cases hfind : find? key fields with
  | none => rfl
  | some value => exact absurd (h _ (mem_of_find? hfind)) (String.lt_irrefl key)

/-- A key that stands before the first one is not there. -/
private theorem Ascending.find?_eq_none {f : String × α} {fields : Keyed α} (h : Ascending (f :: fields)) {key : String}
    (hlt : key < f.1) : find? key (f :: fields) = none := by
  refine find?_eq_none_of_lt fun g hg => ?_
  rcases List.mem_cons.1 hg with rfl | hg
  · exact hlt
  · exact String.lt_trans hlt ((ascending_cons.1 h).1 g hg)

theorem Ascending.find?_of_mem {fields : Keyed α} (h : fields.Ascending) {key : String} {value : α}
    (hmem : (key, value) ∈ fields) : find? key fields = some value := by
  induction fields with
  | nil => simp at hmem
  | cons f r ih =>
    rw [ascending_cons] at h
    rcases List.mem_cons.1 hmem with rfl | hmem
    · simp [find?]
    · have hlt : f.1 < key := h.1 _ hmem
      have hne : f.1 ≠ key := fun hk => String.lt_irrefl key (by rwa [hk] at hlt)
      simp only [find?, hne, if_false]
      exact ih h.2 hmem

theorem mem_insert {key : String} {value : α} {f : String × α} {fields : Keyed α}
    (h : f ∈ insert key value fields) : f = (key, value) ∨ f ∈ fields := by
  induction fields with
  | nil => simpa [insert] using h
  | cons g r ih =>
    obtain ⟨k, v⟩ := g
    rw [insert] at h
    split at h
    · simpa using h
    · split at h
      · exact (List.mem_cons.1 h).imp_right (List.mem_cons_of_mem _)
      · rcases List.mem_cons.1 h with rfl | h
        · exact .inr List.mem_cons_self
        · exact (ih h).imp_right (List.mem_cons_of_mem _)

theorem Ascending.insert {fields : Keyed α} (h : fields.Ascending) (key : String) (value : α) :
    (fields.insert key value).Ascending := by
  induction fields with
  | nil => simp [Keyed.insert, ascending_cons, ascending_nil]
  | cons g r ih =>
    obtain ⟨k, v⟩ := g
    have hr := ascending_cons.1 h
    rw [Keyed.insert]
    split
    · rename_i hlt
      refine ascending_cons.2 ⟨?_, h⟩
      intro f hf
      rcases List.mem_cons.1 hf with rfl | hf
      · exact hlt
      · exact String.lt_trans hlt (hr.1 f hf)
    · split
      · rename_i hk
        subst hk
        exact ascending_cons.2 hr
      · rename_i hnlt hne
        have hlt : k < key := by
          rcases Std.lt_trichotomy k key with hlt | heq | hgt
          · exact hlt
          · exact absurd heq hne
          · exact absurd hgt hnlt
        refine ascending_cons.2 ⟨?_, ih hr.2⟩
        intro f hf
        rcases mem_insert hf with rfl | hf
        · exact hlt
        · exact hr.1 f hf

/-- The keys with their values say all about a collection. -/
theorem Ascending.ext {a b : Keyed α} (ha : a.Ascending) (hb : b.Ascending)
    (h : ∀ key, a.find? key = b.find? key) : a = b := by
  induction a generalizing b with
  | nil =>
    cases b with
    | nil => rfl
    | cons g b =>
      have hg := h g.1
      simp [find?] at hg
  | cons f a ih =>
    cases b with
    | nil =>
      have hf := h f.1
      simp [find?] at hf
    | cons g b =>
      obtain ⟨k, v⟩ := f
      obtain ⟨l, w⟩ := g
      have ha' := ascending_cons.1 ha
      have hb' := ascending_cons.1 hb
      -- the first key of each is found in the other, so neither stands before the other
      have hkl : k = l := by
        rcases Std.lt_trichotomy k l with hlt | heq | hgt
        · have hk := h k
          rw [hb.find?_eq_none hlt] at hk
          simp [find?] at hk
        · exact heq
        · have hl := h l
          rw [ha.find?_eq_none hgt] at hl
          simp [find?] at hl
      subst hkl
      have hvw : v = w := by simpa [find?] using h k
      subst hvw
      congr 1
      refine ih ha'.2 hb'.2 fun key => ?_
      by_cases hkey : k = key
      · subst hkey
        rw [find?_eq_none_of_lt ha'.1, find?_eq_none_of_lt hb'.1]
      · simpa [find?, hkey] using h key

theorem Ascending.erase {fields : Keyed α} (h : fields.Ascending) (key : String) : (fields.erase key).Ascending :=
  List.Pairwise.sublist (List.filter_sublist.map _) h

/-- What was put under a new key can be taken away again. -/
theorem Ascending.erase_insert {fields : Keyed α} (h : fields.Ascending) {key : String}
    (hkey : find? key fields = none) (value : α) : (fields.insert key value).erase key = fields := by
  refine ((h.insert key value).erase key).ext h fun other => ?_
  rw [find?_erase, find?_insert]
  by_cases hother : key = other
  · subst hother
    simp [hkey]
  · simp [hother]

/-- What was taken away can be put back. -/
theorem Ascending.insert_erase {fields : Keyed α} (h : fields.Ascending) {key : String} {value : α}
    (hkey : find? key fields = some value) : (fields.erase key).insert key value = fields := by
  refine ((h.erase key).insert key value).ext h fun other => ?_
  rw [find?_insert, find?_erase]
  by_cases hother : key = other
  · subst hother
    simp [hkey]
  · simp [hother]

private theorem ascending_foldl_insert {fields : Keyed α} (h : fields.Ascending) (pairs : List (String × α)) :
    Ascending (pairs.foldl (fun fields p => Keyed.insert p.1 p.2 fields) fields) := by
  induction pairs generalizing fields with
  | nil => exact h
  | cons p pairs ih => exact ih (h.insert p.1 p.2)

theorem ascending_ofPairs (pairs : List (String × α)) : (ofPairs pairs).Ascending :=
  ascending_foldl_insert ascending_nil pairs

private theorem mem_foldl_insert {f : String × α} {fields : Keyed α} {pairs : List (String × α)}
    (h : f ∈ pairs.foldl (fun fields p => Keyed.insert p.1 p.2 fields) fields) : f ∈ fields ∨ f ∈ pairs := by
  induction pairs generalizing fields with
  | nil => exact .inl h
  | cons p pairs ih =>
    rcases ih h with hmem | hmem
    · rcases mem_insert hmem with rfl | hmem
      · exact .inr List.mem_cons_self
      · exact .inl hmem
    · exact .inr (List.mem_cons_of_mem _ hmem)

theorem mem_of_mem_ofPairs {f : String × α} {pairs : List (String × α)} (h : f ∈ ofPairs pairs) : f ∈ pairs :=
  (mem_foldl_insert h).resolve_left List.not_mem_nil

/-- Each key of the pairs stands there once, so its value replaces what was under it before. -/
private theorem Ascending.find?_foldl_insert {pairs : Keyed α} (h : pairs.Ascending) (fields : Keyed α) (key : String) :
    find? key (pairs.foldl (fun fields p => Keyed.insert p.1 p.2 fields) fields) = (find? key pairs).or (find? key fields) := by
  induction pairs generalizing fields with
  | nil => rfl
  | cons p pairs ih =>
    obtain ⟨k, v⟩ := p
    obtain ⟨hlt, hpairs⟩ := ascending_cons.1 h
    rw [List.foldl_cons, ih hpairs, find?_insert]
    by_cases hk : k = key
    · subst hk
      simp [find?, find?_eq_none_of_lt hlt]
    · simp [find?, hk]

/-- Pairs that stand in order already are left as they are. -/
theorem Ascending.ofPairs_eq {fields : Keyed α} (h : fields.Ascending) : ofPairs fields = fields := by
  refine (ascending_ofPairs fields).ext h fun key => ?_
  rw [ofPairs, h.find?_foldl_insert, find?_nil, Option.or_none]

/-- A pair in front of others in which its key is not found. -/
theorem Ascending.ofPairs_cons {fields : Keyed α} (h : fields.Ascending) {key : String}
    (hkey : find? key fields = none) (value : α) : ofPairs ((key, value) :: fields) = fields.insert key value := by
  refine (ascending_ofPairs _).ext (h.insert key value) fun other => ?_
  have hcons : ofPairs ((key, value) :: fields) =
      fields.foldl (fun fields p => Keyed.insert p.1 p.2 fields) [(key, value)] := rfl
  rw [hcons, h.find?_foldl_insert, find?_insert]
  by_cases hother : key = other
  · subst hother
    simp [hkey, find?]
  · simp [hother, find?]

end Keyed

end ConsoleShell.Text
