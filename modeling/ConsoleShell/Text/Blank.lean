/-!
# Blank characters and trimming

A character is *blank* when it has the Unicode property `White_Space`. `trim` drops the blank characters at
both ends of a text and keeps everything between them.
-/

namespace ConsoleShell.Text

/-- The characters with the property `White_Space`. -/
def isBlank (c : Char) : Bool :=
  let n := c.toNat
  (0x09 ≤ n && n ≤ 0x0D) || n == 0x20 || n == 0x85 || n == 0xA0 || n == 0x1680 ||
    (0x2000 ≤ n && n ≤ 0x200A) || n == 0x2028 || n == 0x2029 || n == 0x202F || n == 0x205F || n == 0x3000

/-- Drops the characters of a class at both ends. -/
def trimEnds (p : Char → Bool) (cs : List Char) : List Char := ((cs.dropWhile p).reverse.dropWhile p).reverse

def trimChars (cs : List Char) : List Char := trimEnds isBlank cs

def trim (s : String) : String := String.ofList (trimChars s.toList)

@[simp] theorem toList_trim (s : String) : (trim s).toList = trimChars s.toList := by simp [trim]

section Ends

variable {p : Char → Bool} {cs : List Char} {c : Char}

private theorem not_of_head?_dropWhile (h : (cs.dropWhile p).head? = some c) : p c = false := by
  simpa [h] using List.head?_dropWhile_not p cs

private theorem dropWhile_eq_self (h : ∀ c, cs.head? = some c → p c = false) : cs.dropWhile p = cs := by
  cases cs with
  | nil => rfl
  | cons d cs =>
    have hd := h d rfl
    exact List.dropWhile_cons_of_neg (by simp [hd])

private theorem getLast?_trimEnds (h : (trimEnds p cs).getLast? = some c) : p c = false := by
  rw [trimEnds, List.getLast?_reverse] at h
  exact not_of_head?_dropWhile h

private theorem head?_trimEnds (h : (trimEnds p cs).head? = some c) : p c = false := by
  -- what is left at the end is the beginning of what is left without the characters in front
  obtain ⟨rest, hrest⟩ : trimEnds p cs <+: cs.dropWhile p := by
    rw [trimEnds, ← List.reverse_reverse (cs.dropWhile p), List.reverse_prefix, List.reverse_reverse]
    exact List.dropWhile_suffix p
  have hhead : (cs.dropWhile p).head? = some c := by
    rw [← hrest, List.head?_append, h]
    rfl
  exact not_of_head?_dropWhile hhead

private theorem trimEnds_eq_self (hhead : ∀ c, cs.head? = some c → p c = false)
    (hlast : ∀ c, cs.getLast? = some c → p c = false) : trimEnds p cs = cs := by
  have hreverse : ∀ c, cs.reverse.head? = some c → p c = false := by
    intro c hc
    rw [List.head?_reverse] at hc
    exact hlast c hc
  rw [trimEnds, dropWhile_eq_self hhead, dropWhile_eq_self hreverse, List.reverse_reverse]

end Ends

/-- No blank character stands at either end. -/
structure Bare (s : String) : Prop where
  head : ∀ c, s.toList.head? = some c → isBlank c = false
  last : ∀ c, s.toList.getLast? = some c → isBlank c = false

private theorem bare_iff {s : String} :
    Bare s ↔ s.toList.head?.any isBlank = false ∧ s.toList.getLast?.any isBlank = false := by
  rw [Option.any_eq_false, Option.any_eq_false]
  exact ⟨fun h => ⟨h.head, h.last⟩, fun h => ⟨h.1, h.2⟩⟩

instance (s : String) : Decidable (Bare s) := decidable_of_iff _ bare_iff.symm

theorem bare_trim (s : String) : Bare (trim s) where
  head c h := head?_trimEnds (by rwa [toList_trim] at h)
  last c h := getLast?_trimEnds (by rwa [toList_trim] at h)

theorem Bare.trim_eq {s : String} (h : Bare s) : trim s = s := by
  rw [trim, trimChars, trimEnds_eq_self h.head h.last, String.ofList_toList]

@[simp] theorem trim_trim (s : String) : trim (trim s) = trim s := (bare_trim s).trim_eq

private theorem toNat_toLower (c : Char) :
    c.toLower.toNat = if 65 ≤ c.toNat ∧ c.toNat ≤ 90 then c.toNat + 32 else c.toNat := by
  by_cases h : c.val ≥ 'A'.val ∧ c.val ≤ 'Z'.val
  · have hn : 65 ≤ c.toNat ∧ c.toNat ≤ 90 := ⟨UInt32.le_iff_toNat_le.1 h.1, UInt32.le_iff_toNat_le.1 h.2⟩
    have hshift : ('a'.val - 'A'.val).toNat = 32 := rfl
    have hlower : c.toLower.val = c.val + ('a'.val - 'A'.val) := by
      delta Char.toLower
      rw [dif_pos h]
    simp only [Char.toNat] at hn ⊢
    rw [if_pos hn, hlower, UInt32.toNat_add]
    omega
  · have hn : ¬ (65 ≤ c.toNat ∧ c.toNat ≤ 90) := fun hn =>
      h ⟨UInt32.le_iff_toNat_le.2 hn.1, UInt32.le_iff_toNat_le.2 hn.2⟩
    rw [if_neg hn]
    delta Char.toLower
    rw [dif_neg h]

@[simp] theorem isBlank_toLower (c : Char) : isBlank c.toLower = isBlank c := by
  rw [Bool.eq_iff_iff]
  simp only [isBlank, toNat_toLower, Bool.or_eq_true, Bool.and_eq_true, decide_eq_true_eq, beq_iff_eq]
  split <;> omega

end ConsoleShell.Text
