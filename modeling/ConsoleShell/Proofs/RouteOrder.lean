import ConsoleShell.Proofs.Captures
import ConsoleShell.Proofs.FirstMatch
import Mathlib.Data.List.Forall2

/-!
# Routes in any order

The order of routes matters only where two of them match the same path. Patterns that differ in the number of their
segments, or clash in one of them, have no path in common: two literals clash unless they are the same, and a parameter
clashes with an empty literal, since it captures any piece but the empty one.

* `apart_of_clashing`: patterns whose segments clash match no path in common.
* `firstMatch?_eq_some_iff_of_apart`: among routes that are apart, the one that matches decides, wherever it stands.
* `textCapture?_of_fixed`, `textCapture?_of_item`: the paths of a pattern without parameters, and of one whose last piece
  is its only parameter.
-/

namespace ConsoleShell

open Text

variable {V : Type}

namespace Segment

/-- The piece of a path matches the segment. -/
def Takes : Segment → String → Prop
  | .literal s, piece => s = piece
  | .param _, piece => piece ≠ ""

/-- No piece matches both segments. -/
def clashes : Segment → Segment → Bool
  | .literal s, .literal t => s != t
  | .literal s, .param _ => s == ""
  | .param _, .literal t => t == ""
  | .param _, .param _ => false

private theorem not_takes_of_clashes {a b : Segment} (h : a.clashes b = true) {piece : String} (ha : a.Takes piece) :
    ¬ b.Takes piece := by
  intro hb
  cases a with
  | literal s =>
    obtain rfl : s = piece := ha
    cases b with
    | literal t =>
      obtain rfl : t = s := hb
      simp [clashes] at h
    | param name => exact hb (by simpa [clashes] using h)
  | param name =>
    cases b with
    | literal t =>
      obtain rfl : t = piece := hb
      exact ha (by simpa [clashes] using h)
    | param other => simp [clashes] at h

end Segment

/-- The segments differ in number, or clash in some place. -/
def clashing : List Segment → List Segment → Bool
  | [], [] => false
  | a :: as, b :: bs => a.clashes b || clashing as bs
  | _, _ => true

private theorem takes_of_captureInto {params m : Params} {parts : List Segment} {pieces : List String}
    (h : captureInto params parts pieces = some m) : List.Forall₂ Segment.Takes parts pieces := by
  fun_induction captureInto params parts pieces with
  | case1 params => exact .nil
  | case2 params parts piece pieces ih => exact .cons rfl (ih h)
  | case5 params name parts piece pieces hne ih => exact .cons hne (ih h)
  | case3 | case4 | case6 => simp at h

private theorem not_takes_of_clashing {as bs : List Segment} (h : clashing as bs = true) {pieces : List String}
    (ha : List.Forall₂ Segment.Takes as pieces) : ¬ List.Forall₂ Segment.Takes bs pieces := by
  intro hb
  induction ha generalizing bs with
  | nil =>
    cases hb
    simp [clashing] at h
  | cons ha has ih =>
    cases hb with
    | cons hb hbs =>
      rw [clashing, Bool.or_eq_true] at h
      rcases h with h | h
      · exact Segment.not_takes_of_clashes h ha hb
      · exact ih h hbs

/-- No path matches both patterns. -/
def Apart (a b : String) : Prop := ∀ path, textCapture? a path = none ∨ textCapture? b path = none

theorem Apart.symm {a b : String} (h : Apart a b) : Apart b a := fun path => (h path).symm

/-- What a pattern that is not the catch-all is read as. -/
def segmentsOf (raw : String) : List Segment := (pathPieces raw).map Segment.ofPiece

private theorem captureInto_of_textCapture? {raw : String} (hraw : raw ≠ "*") {path : String} {m : Params}
    (h : textCapture? raw path = some m) : captureInto [] (segmentsOf raw) (pathPieces path) = some m := by
  cases hp : Pattern.parse raw with
  | error cause => simp [textCapture?, hp] at h
  | ok pattern =>
    rw [textCapture?_of_parse hp, capture?_of_parse hp hraw] at h
    exact h

theorem apart_of_clashing {a b : String} (ha : a ≠ "*") (hb : b ≠ "*")
    (h : clashing (segmentsOf a) (segmentsOf b) = true) : Apart a b := by
  intro path
  cases hma : textCapture? a path with
  | none => exact .inl rfl
  | some m =>
    right
    cases hmb : textCapture? b path with
    | none => rfl
    | some m' =>
      have hta := takes_of_captureInto (captureInto_of_textCapture? ha hma)
      have htb := takes_of_captureInto (captureInto_of_textCapture? hb hmb)
      exact absurd htb (not_takes_of_clashing h hta)

/-- Among routes that are apart, no other route stands in the way of the one that matches. -/
theorem firstMatch?_eq_some_iff_of_apart {entries : List (String × V)}
    (h : entries.Pairwise fun d e => Apart d.1 e.1) {path : String} {view : V} {m : Params} :
    firstMatch? entries path = some (view, m) ↔
      ∃ e ∈ entries, e.2 = view ∧ textCapture? e.1 path = some m := by
  induction entries with
  | nil => simp [firstMatch?]
  | cons d entries ih =>
    obtain ⟨hd, hrest⟩ := List.pairwise_cons.1 h
    rw [firstMatch?, List.findSome?_cons]
    cases hmd : textCapture? d.1 path with
    | none =>
      rw [Option.map_none, ← firstMatch?, ih hrest]
      simp [hmd]
    | some md =>
      -- no later route matches this path
      have hnone : ∀ e ∈ entries, textCapture? e.1 path = none := by
        intro e he
        rcases hd e he path with hno | hno
        · rw [hmd] at hno
          cases hno
        · exact hno
      constructor
      · intro hfound
        obtain ⟨rfl, rfl⟩ := Prod.mk.inj (Option.some.inj hfound)
        exact ⟨d, List.mem_cons_self, rfl, hmd⟩
      · rintro ⟨e, he, rfl, hm⟩
        rcases List.mem_cons.1 he with rfl | he
        · obtain rfl : md = m := Option.some.inj (hmd.symm.trans hm)
          rfl
        · rw [hnone e he] at hm
          cases hm

theorem textCapture?_of_fixed {raw : String} {pattern : Pattern} (hp : Pattern.parse raw = .ok pattern)
    (hraw : raw ≠ "*") (hno : paramNames raw = []) {path : String} {m : Params} :
    textCapture? raw path = some m ↔ raw = path ∧ m = [] := by
  rw [textCapture?_of_parse hp, capture?_of_parse hp hraw, ofPiece_of_pieceNames_eq_nil hno, captureInto_literals]
  simp only [pathPieces_injective.eq_iff]
  split <;> simp [*, eq_comm]

private theorem captureInto_literals_param {pieces others : List String} {name : String} {m : Params} :
    captureInto [] (pieces.map .literal ++ [.param name]) others = some m ↔
      ∃ x, x ≠ "" ∧ others = pieces ++ [x] ∧ m = [(name, x)] := by
  induction pieces generalizing others with
  | nil =>
    rcases others with _ | ⟨x, _ | ⟨y, others⟩⟩
    · simp [captureInto]
    · by_cases hx : x = ""
      · subst hx
        simp [captureInto]
      · simp [captureInto, hx, Keyed.insert, eq_comm]
    · by_cases hx : x = "" <;> simp [captureInto, hx]
  | cons piece pieces ih =>
    cases others with
    | nil => simp [captureInto]
    | cons other others =>
      rw [List.map_cons, List.cons_append, captureInto]
      by_cases hpiece : piece = other
      · simp [hpiece, ih]
      · simp [hpiece, Ne.symm hpiece]

/-- The paths of a pattern whose last piece is its only parameter. -/
theorem textCapture?_of_item {base name : String} {pattern : Pattern}
    (hp : Pattern.parse (base ++ "/" ++ (":" ++ name)) = .ok pattern) (hraw : base ++ "/" ++ (":" ++ name) ≠ "*")
    (hno : paramNames base = []) (hname : '/' ∉ (":" ++ name).toList) {path : String} {m : Params} :
    textCapture? (base ++ "/" ++ (":" ++ name)) path = some m ↔
      ∃ x, x ≠ "" ∧ '/' ∉ x.toList ∧ path = base ++ "/" ++ x ∧ m = [(name, x)] := by
  have hlast : Segment.ofPiece (":" ++ name) = .param name := by simp [Segment.ofPiece, paramName?]
  have hpieces : pathPieces (base ++ "/" ++ (":" ++ name)) = pathPieces base ++ [":" ++ name] :=
    pathPieces_eq_concat_iff.2 ⟨hname, rfl⟩
  rw [textCapture?_of_parse hp, capture?_of_parse hp hraw, hpieces, List.map_append, List.map_singleton, hlast,
    ofPiece_of_pieceNames_eq_nil hno, captureInto_literals_param]
  simp only [pathPieces_eq_concat_iff, and_assoc]

end ConsoleShell
