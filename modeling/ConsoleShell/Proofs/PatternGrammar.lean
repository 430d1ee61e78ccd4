import ConsoleShell.Proofs.PatternTexts

/-!
# The texts that are patterns

Apart from `*`, a pattern begins with a slash, none of its pieces is a bare colon, and no two of its parameters are the
same. A text that is no pattern is refused for the first thing that is wrong with it, and a text that is one can be read
off the pattern again.

* `parseSegments_eq_error_iff`: pieces are refused for the leftmost one that is a bare colon or a parameter seen before.
* `parse_grammar`: which texts are patterns, what the others are refused for, and what the pattern says of its text.
-/

namespace ConsoleShell

open Text

/-- The piece begins with a colon. -/
def IsParam (piece : String) : Prop := piece.toList.head? = some ':'

instance : DecidablePred IsParam := fun piece => inferInstanceAs (Decidable (piece.toList.head? = some ':'))

private theorem paramName?_eq_some_iff {piece name : String} : paramName? piece = some name ↔ piece = ":" ++ name := by
  have hcolon : (":" ++ name).toList = ':' :: name.toList := by simp
  rw [← String.toList_inj, hcolon, paramName?]
  split
  · rename_i cs hcs
    rw [hcs, Option.some.injEq, List.cons.injEq, ← String.toList_inj, String.toList_ofList]
    simp
  · rename_i hno
    simp only [reduceCtorEq, false_iff]
    exact hno name.toList

theorem isParam_iff {piece : String} : IsParam piece ↔ ∃ name, paramName? piece = some name := by
  rw [IsParam, List.head?_eq_some_iff]
  constructor
  · rintro ⟨cs, hcs⟩
    exact ⟨String.ofList cs, by simp [paramName?, hcs]⟩
  · rintro ⟨name, hname⟩
    exact ⟨name.toList, by rw [paramName?_eq_some_iff.1 hname]; simp⟩

private theorem mem_pieceNames_iff {pieces : List String} {name : String} :
    name ∈ pieceNames pieces ↔ ":" ++ name ∈ pieces := by
  simp [pieceNames, List.mem_filterMap, paramName?_eq_some_iff]

/-- No piece is a bare colon, and no two pieces that begin with a colon are the same. -/
structure WellNamed (pieces : List String) : Prop where
  named : ":" ∉ pieces
  distinct : pieces.Pairwise fun a b => IsParam a → a ≠ b

instance (pieces : List String) : Decidable (WellNamed pieces) :=
  decidable_of_iff (":" ∉ pieces ∧ pieces.Pairwise fun a b => IsParam a → a ≠ b)
    ⟨fun h => ⟨h.1, h.2⟩, fun h => ⟨h.named, h.distinct⟩⟩

private theorem nodup_pieceNames_iff {pieces : List String} :
    (pieceNames pieces).Nodup ↔ pieces.Pairwise fun a b => IsParam a → a ≠ b := by
  rw [List.Nodup, pieceNames, List.pairwise_filterMap]
  refine List.Pairwise.iff fun a b => ?_
  constructor
  · intro h hparam hab
    obtain ⟨name, hname⟩ := isParam_iff.1 hparam
    exact h name hname name (hab ▸ hname) rfl
  · intro h name hname other hother heq
    refine h (isParam_iff.2 ⟨name, hname⟩) ?_
    rw [paramName?_eq_some_iff.1 hname, paramName?_eq_some_iff.1 hother, heq]

private theorem exists_parseSegments_iff {pieces : List String} :
    (∃ parts, parseSegments [] pieces = .ok parts) ↔ WellNamed pieces := by
  have hnamed : ":" ∉ pieces ↔ ∀ name ∈ pieceNames pieces, name ≠ "" := by
    have hbare : ":" ∈ pieces ↔ "" ∈ pieceNames pieces := by rw [mem_pieceNames_iff]; rfl
    rw [hbare]
    exact ⟨fun h name hname hempty => h (hempty ▸ hname), fun h hmem => h "" hmem rfl⟩
  simp only [parseSegments_eq_ok_iff, List.not_mem_nil, not_false_eq_true, and_true, nodup_pieceNames_iff, ← hnamed]
  exact ⟨fun ⟨_, _, hd, hn⟩ => ⟨hn, hd⟩, fun ⟨hn, hd⟩ => ⟨_, rfl, hd, hn⟩⟩

/-! ### The leftmost fault -/

theorem except_map_eq_error {ε α β : Type} {x : Except ε α} {f : α → β} {e : ε} :
    x.map f = .error e ↔ x = .error e := by
  cases x <;> simp [Except.map]

/-- Behind pieces that can be read, reading goes on with their names as the ones seen last. -/
private theorem parseSegments_append {seen before after : List String} {parts : List Segment}
    (h : parseSegments seen before = .ok parts) :
    parseSegments seen (before ++ after) =
      (parseSegments ((pieceNames before).reverse ++ seen) after).map (parts ++ ·) := by
  induction before generalizing seen parts with
  | nil =>
    obtain rfl : [] = parts := Except.ok.inj h
    cases hafter : parseSegments seen after <;> simp [pieceNames, hafter, Except.map]
  | cons piece before ih =>
    rw [parseSegments] at h
    rw [List.cons_append, parseSegments]
    cases hp : paramName? piece with
    | none =>
      simp only [hp] at h ⊢
      obtain ⟨rest, hrest, rfl⟩ := except_map_eq_ok.1 h
      rw [ih hrest, pieceNames_cons_none hp]
      cases parseSegments ((pieceNames before).reverse ++ seen) after <;> rfl
    | some name =>
      simp only [hp] at h ⊢
      split at h
      · simp at h
      · rename_i hempty
        split at h
        · simp at h
        · rename_i hseen
          obtain ⟨rest, hrest, rfl⟩ := except_map_eq_ok.1 h
          rw [if_neg hempty, if_neg hseen, ih hrest, pieceNames_cons_some hp, List.reverse_cons, List.append_assoc,
            List.singleton_append]
          cases parseSegments ((pieceNames before).reverse ++ name :: seen) after <;> rfl

/-- What is wrong with a parameter behind the names seen so far. -/
inductive Misnamed (seen : List String) : String → PatternError → Prop
  | unnamed : Misnamed seen "" .unnamedParam
  | duplicate {name : String} (hname : name ≠ "") (hseen : name ∈ seen) : Misnamed seen name (.duplicateParam name)

private theorem Misnamed.mono {seen seen' : List String} {name : String} {e : PatternError} (h : Misnamed seen name e)
    (hsub : seen ⊆ seen') : Misnamed seen' name e := by
  cases h with
  | unnamed => exact .unnamed
  | duplicate hname hseen => exact .duplicate hname (hsub hseen)

private theorem parseSegments_of_misnamed {seen : List String} {piece name : String} {e : PatternError}
    (hp : paramName? piece = some name) (h : Misnamed seen name e) (after : List String) :
    parseSegments seen (piece :: after) = .error e := by
  rw [parseSegments, hp]
  cases h with
  | unnamed => rfl
  | duplicate hname hseen => simp [hname, hseen]

/-- Pieces that are refused can be read up to the one that they are refused for. -/
private theorem exists_misnamed_of_parseSegments {seen pieces : List String} {e : PatternError}
    (h : parseSegments seen pieces = .error e) :
    ∃ before piece after name, pieces = before ++ piece :: after ∧ (∃ parts, parseSegments seen before = .ok parts) ∧
      paramName? piece = some name ∧ Misnamed ((pieceNames before).reverse ++ seen) name e := by
  induction pieces generalizing seen with
  | nil => simp [parseSegments] at h
  | cons first pieces ih =>
    rw [parseSegments] at h
    cases hp : paramName? first with
    | none =>
      simp only [hp] at h
      obtain ⟨before, piece, after, name, rfl, ⟨parts, hparts⟩, hpiece, hfault⟩ := ih (except_map_eq_error.1 h)
      refine ⟨first :: before, piece, after, name, rfl, ⟨.literal first :: parts, ?_⟩, hpiece, ?_⟩
      · simp [parseSegments, hp, hparts, Except.map]
      · rwa [pieceNames_cons_none hp]
    | some other =>
      simp only [hp] at h
      by_cases hempty : other = ""
      · subst hempty
        obtain rfl : .unnamedParam = e := by simpa using h
        exact ⟨[], first, pieces, "", rfl, ⟨[], rfl⟩, hp, .unnamed⟩
      · by_cases hseen : other ∈ seen
        · obtain rfl : .duplicateParam other = e := by simpa [hempty, hseen] using h
          exact ⟨[], first, pieces, other, rfl, ⟨[], rfl⟩, hp, .duplicate hempty hseen⟩
        · rw [if_neg hempty, if_neg hseen] at h
          obtain ⟨before, piece, after, name, rfl, ⟨parts, hparts⟩, hpiece, hfault⟩ := ih (except_map_eq_error.1 h)
          refine ⟨first :: before, piece, after, name, rfl, ⟨.param other :: parts, ?_⟩, hpiece, ?_⟩
          · simp [parseSegments, hp, hempty, hseen, hparts, Except.map]
          · rwa [pieceNames_cons_some hp, List.reverse_cons, List.append_assoc]

theorem parseSegments_eq_error_iff {pieces : List String} {e : PatternError} :
    parseSegments [] pieces = .error e ↔ ∃ before after name,
      pieces = before ++ (":" ++ name) :: after ∧ WellNamed before ∧ Misnamed (pieceNames before) name e := by
  constructor
  · intro h
    obtain ⟨before, piece, after, name, rfl, hread, hp, hfault⟩ := exists_misnamed_of_parseSegments h
    obtain rfl := paramName?_eq_some_iff.1 hp
    exact ⟨before, after, name, rfl, exists_parseSegments_iff.1 hread, hfault.mono (by simp)⟩
  · rintro ⟨before, after, name, rfl, hwell, hfault⟩
    obtain ⟨parts, hparts⟩ := exists_parseSegments_iff.2 hwell
    have hbehind : Misnamed ((pieceNames before).reverse ++ []) name e := hfault.mono (by simp)
    rw [parseSegments_append hparts, parseSegments_of_misnamed (paramName?_eq_some_iff.2 rfl) hbehind]
    rfl

def Rooted (raw : String) : Prop := raw.toList.head? = some '/'

instance : DecidablePred Rooted := fun raw => inferInstanceAs (Decidable (raw.toList.head? = some '/'))

private theorem ne_of_rooted {raw : String} (h : Rooted raw) : raw ≠ "" ∧ raw ≠ "*" := by
  constructor
  · rintro rfl
    simp [Rooted] at h
  · rintro rfl
    simp [Rooted] at h

private theorem parse_of_not_rooted {raw : String} (hempty : raw ≠ "") (hstar : raw ≠ "*") (h : ¬ Rooted raw) :
    Pattern.parse raw = .error .missingLeadingSlash := by
  have hslash : raw.toList.head? ≠ some '/' := h
  rw [Pattern.parse, if_neg hempty, if_neg hstar, if_pos hslash]

/-- Without parameters, a text that begins with a slash is a fixed path; otherwise all depends on its pieces. -/
private theorem parse_of_rooted {raw : String} (h : Rooted raw) : Pattern.parse raw =
    if ∀ piece ∈ pathPieces raw, ¬ IsParam piece then .ok (.fixed raw)
    else (parseSegments [] (pathPieces raw)).map .segments := by
  obtain ⟨hempty, hstar⟩ := ne_of_rooted h
  have hslash : ¬ raw.toList.head? ≠ some '/' := not_not_intro h
  rw [Pattern.parse, if_neg hempty, if_neg hstar, if_neg hslash]
  have hall : ((pathPieces raw).all fun piece => (paramName? piece).isNone) = true ↔
      ∀ piece ∈ pathPieces raw, ¬ IsParam piece := by
    simp [isParam_iff, Option.eq_none_iff_forall_ne_some]
  simp only [hall]

private theorem wellNamed_of_no_param {pieces : List String} (h : ∀ piece ∈ pieces, ¬ IsParam piece) :
    WellNamed pieces where
  named := fun hmem => h ":" hmem (by decide)
  distinct := List.pairwise_of_forall_mem_list fun a ha _ _ hparam => absurd hparam (h a ha)

private theorem exists_parse_of_rooted {raw : String} (h : Rooted raw) :
    (∃ p, Pattern.parse raw = .ok p) ↔ WellNamed (pathPieces raw) := by
  rw [parse_of_rooted h]
  split
  · rename_i hno
    exact ⟨fun _ => wellNamed_of_no_param hno, fun _ => ⟨_, rfl⟩⟩
  · rw [← exists_parseSegments_iff]
    constructor
    · rintro ⟨p, hp⟩
      obtain ⟨parts, hparts, -⟩ := except_map_eq_ok.1 hp
      exact ⟨parts, hparts⟩
    · rintro ⟨parts, hparts⟩
      exact ⟨.segments parts, by rw [hparts]; rfl⟩

private theorem parse_eq_error_of_rooted {raw : String} (h : Rooted raw) {e : PatternError} :
    Pattern.parse raw = .error e ↔ parseSegments [] (pathPieces raw) = .error e := by
  rw [parse_of_rooted h]
  split
  · rename_i hno
    obtain ⟨parts, hparts⟩ := exists_parseSegments_iff.2 (wellNamed_of_no_param hno)
    simp [hparts]
  · exact except_map_eq_error

private theorem text_ofPiece (piece : String) : (Segment.ofPiece piece).text = piece := by
  unfold Segment.ofPiece
  split
  · rename_i name hname
    exact (paramName?_eq_some_iff.1 hname).symm
  · rfl

theorem text_of_parse {raw : String} {p : Pattern} (h : Pattern.parse raw = .ok p) : p.text = raw := by
  by_cases hstar : raw = "*"
  · subst hstar
    obtain rfl : Pattern.catchAll = p := Except.ok.inj h
    rfl
  · rcases cases_of_parse h hstar with ⟨rfl, -⟩ | ⟨rfl, -⟩
    · rfl
    · rw [Pattern.text, List.map_map]
      have hid : Segment.text ∘ Segment.ofPiece = id := funext text_ofPiece
      rw [hid, List.map_id, joinPath_pathPieces]

/-- The parameters of a pattern are the pieces of its text that begin with a colon. -/
private theorem names_of_parse {raw : String} {p : Pattern} (h : Pattern.parse raw = .ok p) :
    p.names = paramNames raw := by
  by_cases hstar : raw = "*"
  · subst hstar
    obtain rfl : Pattern.catchAll = p := Except.ok.inj h
    decide
  · rcases cases_of_parse h hstar with ⟨rfl, hnil⟩ | ⟨rfl, -⟩
    · rw [hnil]
      rfl
    · exact filterMap_name?_ofPiece (pathPieces raw)

/-! ### The grammar -/

private theorem exists_parse_iff {raw : String} :
    (∃ p, Pattern.parse raw = .ok p) ↔ raw = "*" ∨ Rooted raw ∧ WellNamed (pathPieces raw) := by
  by_cases hrooted : Rooted raw
  · simp [exists_parse_of_rooted hrooted, hrooted, (ne_of_rooted hrooted).2]
  · by_cases hempty : raw = ""
    · subst hempty
      simp [Pattern.parse, hrooted]
    · by_cases hstar : raw = "*"
      · subst hstar
        simp [Pattern.parse]
      · simp [parse_of_not_rooted hempty hstar hrooted, hrooted, hstar]

/-- What a text is refused for: one that begins with a slash for its leftmost fault. -/
private theorem parse_eq_error_iff {raw : String} {e : PatternError} : Pattern.parse raw = .error e ↔
    (raw = "" ∧ e = .empty) ∨ (raw ≠ "" ∧ raw ≠ "*" ∧ ¬ Rooted raw ∧ e = .missingLeadingSlash) ∨
      Rooted raw ∧ ∃ before after name,
        pathPieces raw = before ++ (":" ++ name) :: after ∧ WellNamed before ∧ Misnamed (pieceNames before) name e := by
  rw [← parseSegments_eq_error_iff]
  by_cases hrooted : Rooted raw
  · obtain ⟨hempty, -⟩ := ne_of_rooted hrooted
    simp [parse_eq_error_of_rooted hrooted, hrooted, hempty]
  · by_cases hempty : raw = ""
    · subst hempty
      have hparse : Pattern.parse "" = .error .empty := rfl
      simp [hparse, hrooted, eq_comm (a := e)]
    · by_cases hstar : raw = "*"
      · subst hstar
        simp [Pattern.parse, hrooted]
      · simp [parse_of_not_rooted hempty hstar hrooted, hrooted, hempty, hstar, eq_comm (a := e)]

private theorem misnamed_unnamedParam_iff {seen : List String} {name : String} :
    Misnamed seen name .unnamedParam ↔ name = "" := by
  constructor
  · rintro ⟨⟩
    rfl
  · rintro rfl
    exact .unnamed

private theorem misnamed_duplicateParam_iff {seen : List String} {name other : String} :
    Misnamed seen name (.duplicateParam other) ↔ name = other ∧ name ≠ "" ∧ name ∈ seen := by
  constructor
  · rintro ⟨⟩
    exact ⟨rfl, ‹_›, ‹_›⟩
  · rintro ⟨rfl, hname, hseen⟩
    exact .duplicate hname hseen

theorem exists_parse_fixed_iff {raw : String} : (∃ path, Pattern.parse raw = .ok (.fixed path)) ↔
    (∃ p, Pattern.parse raw = .ok p) ∧ raw ≠ "*" ∧ ∀ piece ∈ pathPieces raw, ¬ IsParam piece := by
  constructor
  · rintro ⟨path, hpath⟩
    have hstar : raw ≠ "*" := by
      rintro rfl
      cases (Except.ok.inj hpath : Pattern.catchAll = .fixed path)
    refine ⟨⟨_, hpath⟩, hstar, ?_⟩
    rcases cases_of_parse hpath hstar with ⟨-, hnil⟩ | ⟨hsegments, -⟩
    · intro piece hpiece hparam
      obtain ⟨name, hname⟩ := isParam_iff.1 hparam
      rw [paramNames, pieceNames, List.filterMap_eq_nil_iff] at hnil
      rw [hnil piece hpiece] at hname
      cases hname
    · cases hsegments
  · rintro ⟨⟨p, hp⟩, hstar, hno⟩
    by_cases hrooted : Rooted raw
    · exact ⟨raw, by rw [parse_of_rooted hrooted, if_pos hno]⟩
    · by_cases hempty : raw = ""
      · subst hempty
        cases hp
      · rw [parse_of_not_rooted hempty hstar hrooted] at hp
        cases hp

/-- A text is a pattern if it is `*`, or if it begins with a slash and its pieces are well named. An empty text is
refused as such, and one that begins with neither for the missing slash; any other is refused for its leftmost piece
that is a bare colon or repeats a parameter. From a pattern, its text can be read off, so no two texts are the same
pattern, and its parameters are the pieces that begin with a colon, in their order. Just the texts without any parameter
are fixed paths. -/
theorem parse_grammar (raw : String) :
    ((∃ p, Pattern.parse raw = .ok p) ↔ raw = "*" ∨ Rooted raw ∧ WellNamed (pathPieces raw)) ∧
    (Pattern.parse raw = .error .empty ↔ raw = "") ∧
    (Pattern.parse raw = .error .missingLeadingSlash ↔ raw ≠ "" ∧ raw ≠ "*" ∧ ¬ Rooted raw) ∧
    (Pattern.parse raw = .error .unnamedParam ↔
      Rooted raw ∧ ∃ before after, pathPieces raw = before ++ ":" :: after ∧ WellNamed before) ∧
    (∀ name, Pattern.parse raw = .error (.duplicateParam name) ↔
      Rooted raw ∧ ∃ before after, pathPieces raw = before ++ (":" ++ name) :: after ∧ WellNamed before ∧
        ":" ++ name ∈ before) ∧
    (∀ p, Pattern.parse raw = .ok p → p.text = raw ∧ p.names = paramNames raw ∧
      ∀ raw', Pattern.parse raw' = .ok p → raw' = raw) ∧
    ((∃ path, Pattern.parse raw = .ok (.fixed path)) ↔
      (∃ p, Pattern.parse raw = .ok p) ∧ raw ≠ "*" ∧ ∀ piece ∈ pathPieces raw, ¬ IsParam piece) := by
  refine ⟨exists_parse_iff, ?_, ?_, ?_, ?_, ?_, exists_parse_fixed_iff⟩
  · rw [parse_eq_error_iff]
    constructor
    · rintro (⟨hempty, -⟩ | ⟨-, -, -, h⟩ | ⟨-, _, _, _, -, -, h⟩)
      · exact hempty
      · cases h
      · cases h
    · exact fun hempty => .inl ⟨hempty, rfl⟩
  · rw [parse_eq_error_iff]
    constructor
    · rintro (⟨-, h⟩ | ⟨hempty, hstar, hrooted, -⟩ | ⟨-, _, _, _, -, -, h⟩)
      · cases h
      · exact ⟨hempty, hstar, hrooted⟩
      · cases h
    · exact fun ⟨hempty, hstar, hrooted⟩ => .inr (.inl ⟨hempty, hstar, hrooted, rfl⟩)
  · simp [parse_eq_error_iff, misnamed_unnamedParam_iff]
  · intro name
    have hmem : ∀ {before}, WellNamed before → ":" ++ name ∈ before → name ≠ "" ∧ name ∈ pieceNames before := by
      rintro before hwell hmem
      refine ⟨?_, mem_pieceNames_iff.2 hmem⟩
      rintro rfl
      exact hwell.named hmem
    rw [parse_eq_error_iff]
    constructor
    · rintro (⟨-, h⟩ | ⟨-, -, -, h⟩ | ⟨hrooted, before, after, other, hpieces, hwell, h⟩)
      · cases h
      · cases h
      · obtain ⟨rfl, -, hseen⟩ := misnamed_duplicateParam_iff.1 h
        exact ⟨hrooted, before, after, hpieces, hwell, mem_pieceNames_iff.1 hseen⟩
    · rintro ⟨hrooted, before, after, hpieces, hwell, hseen⟩
      have h := misnamed_duplicateParam_iff.2 ⟨rfl, hmem hwell hseen⟩
      exact .inr (.inr ⟨hrooted, before, after, name, hpieces, hwell, h⟩)
  · intro p hp
    refine ⟨text_of_parse hp, names_of_parse hp, fun raw' hp' => ?_⟩
    rw [← text_of_parse hp', text_of_parse hp]

/-- Both faults in one text: the leftmost one counts. -/
theorem refused_for_leftmost :
    Pattern.parse "/:id/:id/:" = .error (.duplicateParam "id") ∧ Pattern.parse "/:id/:/:id" = .error .unnamedParam ∧
      ∃ p, Pattern.parse "/org/:id//" = .ok p ∧ p.text = "/org/:id//" ∧ p.names = ["id"] ∧ ∀ path, p ≠ .fixed path := by
  obtain ⟨-, -, -, -, hduplicate, -⟩ := parse_grammar "/:id/:id/:"
  obtain ⟨-, -, -, hunnamed, -⟩ := parse_grammar "/:id/:/:id"
  obtain ⟨haccepted, -, -, -, -, htext, hfixed⟩ := parse_grammar "/org/:id//"
  obtain ⟨p, hp⟩ := haccepted.2 (by decide)
  refine ⟨?_, ?_, p, hp, (htext p hp).1, (htext p hp).2.1.trans (by decide), ?_⟩
  · exact (hduplicate "id").2 ⟨by decide, ["", ":id"], [":"], by decide, by decide, by decide⟩
  · exact hunnamed.2 ⟨by decide, ["", ":id"], [":id"], by decide, by decide⟩
  · rintro path rfl
    exact (hfixed.1 ⟨path, hp⟩).2.2 ":id" (by decide) (by decide)

end ConsoleShell
