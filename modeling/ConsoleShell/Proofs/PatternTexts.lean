import ConsoleShell.Route.Pattern

/-!
# Patterns as they are written

What a pattern means can be read off its text: each piece between two slashes is a parameter, if it begins with a colon,
or stands for itself.

* `parseSegments_eq_ok_iff`: the pieces can be read exactly if every parameter among them has a name of its own.
* `cases_of_parse`: a text other than `*` is read as a fixed path if it has no parameter, and as its segments otherwise.
* `fillText?_eq_some_iff`: putting parameters in place of their names in the text is filling the segments.
-/

namespace ConsoleShell

open Text

theorem pathPieces_ne_nil (path : String) : pathPieces path ≠ [] := by
  simpa [pathPieces] using splitAt_ne_nil '/' path.toList

theorem pathPieces_injective : Function.Injective pathPieces := by
  intro a b h
  rw [← joinPath_pathPieces a, ← joinPath_pathPieces b, h]

theorem slash_not_mem_of_mem_pathPieces {path piece : String} (h : piece ∈ pathPieces path) : '/' ∉ piece.toList := by
  obtain ⟨p, hp, rfl⟩ := List.mem_map.1 h
  simpa using not_mem_of_mem_splitAt hp

theorem pathPieces_joinPath {pieces : List String} (hne : pieces ≠ []) (h : ∀ piece ∈ pieces, '/' ∉ piece.toList) :
    pathPieces (joinPath pieces) = pieces := by
  have hlist : ∀ p ∈ pieces.map String.toList, '/' ∉ p := by
    intro p hp
    obtain ⟨piece, hpiece, rfl⟩ := List.mem_map.1 hp
    exact h piece hpiece
  rw [pathPieces, joinPath, String.toList_ofList, splitAt_joinWith (by simpa using hne) hlist, List.map_map]
  simp [Function.comp_def]

private theorem joinPath_concat {pieces : List String} (hne : pieces ≠ []) (piece : String) :
    joinPath (pieces ++ [piece]) = joinPath pieces ++ "/" ++ piece := by
  rw [← String.toList_inj, joinPath, List.map_append, List.map_singleton, String.toList_ofList,
    joinWith_concat (by simpa using hne)]
  simp [joinPath]

/-- A path is another path and one piece more. -/
theorem pathPieces_eq_concat_iff {base path piece : String} :
    pathPieces path = pathPieces base ++ [piece] ↔ '/' ∉ piece.toList ∧ path = base ++ "/" ++ piece := by
  constructor
  · intro h
    have hmem : piece ∈ pathPieces path := by simp [h]
    refine ⟨slash_not_mem_of_mem_pathPieces hmem, ?_⟩
    rw [← joinPath_pathPieces path, h, joinPath_concat (pathPieces_ne_nil base), joinPath_pathPieces]
  · rintro ⟨hslash, rfl⟩
    have hpieces : ∀ p ∈ pathPieces base ++ [piece], '/' ∉ p.toList := by
      intro p hp
      rcases List.mem_append.1 hp with hp | hp
      · exact slash_not_mem_of_mem_pathPieces hp
      · rwa [List.mem_singleton.1 hp]
    rw [← pathPieces_joinPath (by simp) hpieces, joinPath_concat (pathPieces_ne_nil base), joinPath_pathPieces]

def Segment.ofPiece (piece : String) : Segment :=
  match paramName? piece with
  | some name => .param name
  | none => .literal piece

def pieceNames (pieces : List String) : List String := pieces.filterMap paramName?

/-- The parameters of a pattern as it is written. -/
def paramNames (raw : String) : List String := pieceNames (pathPieces raw)

theorem pieceNames_cons_none {piece : String} (h : paramName? piece = none) (pieces : List String) :
    pieceNames (piece :: pieces) = pieceNames pieces := by
  rw [pieceNames, List.filterMap_cons_none h, pieceNames]

theorem pieceNames_cons_some {piece name : String} (h : paramName? piece = some name) (pieces : List String) :
    pieceNames (piece :: pieces) = name :: pieceNames pieces := by
  rw [pieceNames, List.filterMap_cons_some h, pieceNames]

theorem except_map_eq_ok {ε α β : Type} {x : Except ε α} {f : α → β} {b : β} :
    x.map f = .ok b ↔ ∃ a, x = .ok a ∧ f a = b := by
  cases x <;> simp [Except.map]

/-- Pieces are read as segments exactly if every parameter among them has a name of its own. -/
theorem parseSegments_eq_ok_iff {seen pieces : List String} {parts : List Segment} :
    parseSegments seen pieces = .ok parts ↔
      parts = pieces.map Segment.ofPiece ∧ (pieceNames pieces).Nodup ∧
        ∀ name ∈ pieceNames pieces, name ≠ "" ∧ name ∉ seen := by
  induction pieces generalizing seen parts with
  | nil => simp [parseSegments, pieceNames, eq_comm]
  | cons piece pieces ih =>
    rw [parseSegments]
    cases hp : paramName? piece with
    | none =>
      rw [pieceNames_cons_none hp]
      simp only [except_map_eq_ok, ih, List.map_cons, Segment.ofPiece, hp]
      constructor
      · rintro ⟨rest, ⟨rfl, hnodup, hnames⟩, rfl⟩
        exact ⟨rfl, hnodup, hnames⟩
      · rintro ⟨rfl, hnodup, hnames⟩
        exact ⟨_, ⟨rfl, hnodup, hnames⟩, rfl⟩
    | some name =>
      rw [pieceNames_cons_some hp]
      by_cases hempty : name = ""
      · subst hempty
        simp
      · by_cases hseen : name ∈ seen
        · simp [hempty, hseen]
        · simp only [hempty, hseen, if_false, except_map_eq_ok, ih, List.map_cons, Segment.ofPiece, hp,
            List.nodup_cons, List.mem_cons, not_or]
          constructor
          · rintro ⟨rest, ⟨rfl, hnodup, hnames⟩, rfl⟩
            refine ⟨rfl, ⟨fun hmem => (hnames name hmem).2.1 rfl, hnodup⟩, ?_⟩
            rintro other (rfl | hother)
            · exact ⟨hempty, hseen⟩
            · exact ⟨(hnames other hother).1, (hnames other hother).2.2⟩
          · rintro ⟨rfl, ⟨hfresh, hnodup⟩, hnames⟩
            refine ⟨_, ⟨rfl, hnodup, fun other hother => ?_⟩, rfl⟩
            have hne : other ≠ name := fun heq => hfresh (heq ▸ hother)
            exact ⟨(hnames other (.inr hother)).1, hne, (hnames other (.inr hother)).2⟩

/-- A pattern that is not the catch-all, exact or not, matches piece by piece. -/
theorem cases_of_parse {raw : String} {pattern : Pattern} (h : Pattern.parse raw = .ok pattern) (hraw : raw ≠ "*") :
    (pattern = .fixed raw ∧ paramNames raw = []) ∨
      pattern = .segments ((pathPieces raw).map Segment.ofPiece) ∧ (paramNames raw).Nodup := by
  rw [Pattern.parse, if_neg hraw] at h
  split at h
  · simp at h
  · split at h
    · simp at h
    · split at h
      · rename_i hall
        left
        refine ⟨(Except.ok.inj h).symm, ?_⟩
        rw [paramNames, pieceNames, List.filterMap_eq_nil_iff]
        simpa using hall
      · right
        obtain ⟨parts, hparts, rfl⟩ := except_map_eq_ok.1 h
        obtain ⟨rfl, hnodup, -⟩ := parseSegments_eq_ok_iff.1 hparts
        exact ⟨rfl, hnodup⟩

theorem nodup_paramNames {raw : String} {pattern : Pattern} (h : Pattern.parse raw = .ok pattern) (hraw : raw ≠ "*") :
    (paramNames raw).Nodup := by
  rcases cases_of_parse h hraw with ⟨-, hnil⟩ | ⟨-, hnodup⟩
  · rw [hnil]
    exact List.nodup_nil
  · exact hnodup

theorem ofPiece_of_pieceNames_eq_nil {pieces : List String} (h : pieceNames pieces = []) :
    pieces.map Segment.ofPiece = pieces.map .literal := by
  rw [pieceNames, List.filterMap_eq_nil_iff] at h
  exact List.map_congr_left fun piece hpiece => by simp [Segment.ofPiece, h piece hpiece]

/-- A piece of a pattern with the parameter in place of its name. -/
def fillPiece? (params : Params) (piece : String) : Option String :=
  match paramName? piece with
  | some name => params.find? name
  | none => some piece

/-- The pattern as it is written, with the parameters in place of their names. -/
def fillText? (params : Params) (raw : String) : Option String :=
  ((pathPieces raw).mapM (fillPiece? params)).map joinPath

private theorem mapM_eq_some_iff {α β : Type} {f : α → Option β} {as : List α} {bs : List β} :
    as.mapM f = some bs ↔ as.map f = bs.map some := by
  induction as generalizing bs with
  | nil => cases bs <;> simp
  | cons a as ih =>
    rw [List.mapM_cons]
    cases bs with
    | nil => cases f a <;> cases as.mapM f <;> simp
    | cons b bs =>
      rw [List.map_cons, List.map_cons, List.cons.injEq, ← ih]
      cases f a <;> cases as.mapM f <;> simp

theorem fillPiece?_eq (params : Params) (piece : String) :
    fillPiece? params piece = (Segment.ofPiece piece).fill? params := by
  unfold fillPiece? Segment.ofPiece
  cases paramName? piece <;> rfl

theorem fillText?_eq_some_iff {params : Params} {raw path : String} :
    fillText? params raw = some path ↔ ∃ pieces,
      ((pathPieces raw).map Segment.ofPiece).map (Segment.fill? params) = pieces.map some ∧ joinPath pieces = path := by
  have hfill : ((pathPieces raw).map Segment.ofPiece).map (Segment.fill? params) =
      (pathPieces raw).map (fillPiece? params) := by
    rw [List.map_map]
    exact List.map_congr_left fun piece _ => (fillPiece?_eq params piece).symm
  simp only [fillText?, Option.map_eq_some_iff, mapM_eq_some_iff, hfill]

theorem filterMap_name?_ofPiece (pieces : List String) :
    (pieces.map Segment.ofPiece).filterMap Segment.name? = pieceNames pieces := by
  have hname : Segment.name? ∘ Segment.ofPiece = paramName? := by
    funext piece
    simp only [Function.comp_apply, Segment.ofPiece]
    cases paramName? piece <;> rfl
  rw [List.filterMap_map, hname, pieceNames]

end ConsoleShell
