import ConsoleShell.Proofs.PatternTexts

/-!
# Matching is filling in

A path matches a pattern if there are parameters that turn the text of the pattern into the path. `Instantiates` says so
of the text alone: its parameters, each a piece of a path, and the text with them in place of their names. Matching works
on segments and collects what they capture one after the other.

* `captureInto_eq_some`, `isSome_captureInto`: what is captured fills the segments, and what fills them is captured.
* `capture?_iff_instantiates`: so a path matches with the parameters that instantiate the pattern to it, and no others.
-/

namespace ConsoleShell

open Text

/-- What is captured comes back: the segments filled with it give the pieces, no captured value is empty, and other
keys keep their values. -/
theorem captureInto_eq_some {params m : Params} {parts : List Segment} {pieces : List String}
    (h : captureInto params parts pieces = some m) (hnodup : (parts.filterMap Segment.name?).Nodup) :
    parts.map (Segment.fill? m) = pieces.map some ∧
      (∀ name ∈ parts.filterMap Segment.name?, ∃ value ∈ pieces, m.find? name = some value ∧ value ≠ "") ∧
      ∀ key, key ∉ parts.filterMap Segment.name? → m.find? key = params.find? key := by
  fun_induction captureInto params parts pieces with
  | case1 params =>
    obtain rfl : params = m := Option.some.inj h
    simp
  | case2 params parts piece pieces ih =>
    obtain ⟨hfill, hvalues, hother⟩ := ih h hnodup
    refine ⟨?_, ?_, hother⟩
    · simp [Segment.fill?, hfill]
    · intro name hname
      obtain ⟨value, hmem, hfind⟩ := hvalues name hname
      exact ⟨value, List.mem_cons_of_mem _ hmem, hfind⟩
  | case3 params s parts piece pieces hne => simp at h
  | case4 params name parts pieces => simp at h
  | case5 params name parts piece pieces hne ih =>
    have hcons : (Segment.param name :: parts).filterMap Segment.name? = name :: parts.filterMap Segment.name? := rfl
    rw [hcons, List.nodup_cons] at hnodup
    obtain ⟨hfill, hvalues, hother⟩ := ih h hnodup.2
    -- no later segment has the same name, so nothing takes the place of this piece
    have hfind : m.find? name = some piece := by
      rw [hother name hnodup.1, Keyed.find?_insert, if_pos rfl]
    rw [hcons]
    refine ⟨?_, ?_, ?_⟩
    · simp [Segment.fill?, hfill, hfind]
    · intro other hother
      rcases List.mem_cons.1 hother with rfl | hother
      · exact ⟨piece, List.mem_cons_self, hfind, hne⟩
      · obtain ⟨value, hmem, hvalue⟩ := hvalues other hother
        exact ⟨value, List.mem_cons_of_mem _ hmem, hvalue⟩
    · intro key hkey
      rw [List.mem_cons, not_or] at hkey
      rw [hother key hkey.2, Keyed.find?_insert, if_neg (Ne.symm hkey.1)]
  | case6 params parts pieces hnil hliteral hparam => simp at h

/-- Whatever fills the segments so that no value is empty is captured, at least under their names. -/
theorem isSome_captureInto {params m : Params} {parts : List Segment} {pieces : List String}
    (hfill : parts.map (Segment.fill? m) = pieces.map some)
    (hvalues : ∀ name ∈ parts.filterMap Segment.name?, m.find? name ≠ some "") :
    (captureInto params parts pieces).isSome := by
  induction parts generalizing params pieces with
  | nil =>
    obtain rfl : pieces = [] := by simpa using hfill.symm
    rfl
  | cons part parts ih =>
    cases pieces with
    | nil => simp at hfill
    | cons piece pieces =>
      rw [List.map_cons, List.map_cons, List.cons.injEq] at hfill
      obtain ⟨hpiece, hfill⟩ := hfill
      cases part with
      | literal s =>
        obtain rfl : s = piece := Option.some.inj hpiece
        rw [captureInto, if_pos rfl]
        exact ih hfill hvalues
      | param name =>
        have hne : piece ≠ "" := by
          rintro rfl
          exact hvalues name (by simp [Segment.name?]) hpiece
        rw [captureInto, if_neg hne]
        refine ih hfill fun other hother => hvalues other ?_
        exact List.mem_cons_of_mem name hother

private theorem ascending_captureInto {params m : Params} {parts : List Segment} {pieces : List String}
    (h : captureInto params parts pieces = some m) (hparams : params.Ascending) : m.Ascending := by
  fun_induction captureInto params parts pieces with
  | case1 params =>
    obtain rfl : params = m := Option.some.inj h
    exact hparams
  | case2 params parts piece pieces ih => exact ih h hparams
  | case5 params name parts piece pieces hne ih => exact ih h (hparams.insert name piece)
  | case3 | case4 | case6 => simp at h

theorem captureInto_literals (params : Params) (pieces others : List String) :
    captureInto params (pieces.map .literal) others = if pieces = others then some params else none := by
  induction pieces generalizing others with
  | nil => cases others <;> simp [captureInto]
  | cons piece pieces ih =>
    cases others with
    | nil => simp [captureInto]
    | cons other others =>
      rw [List.map_cons, captureInto, ih]
      by_cases hpiece : piece = other <;> simp [hpiece]

theorem capture?_of_parse {raw : String} {pattern : Pattern} (h : Pattern.parse raw = .ok pattern) (hraw : raw ≠ "*")
    (path : String) :
    pattern.capture? path = captureInto [] ((pathPieces raw).map Segment.ofPiece) (pathPieces path) := by
  rcases cases_of_parse h hraw with ⟨rfl, hnil⟩ | ⟨rfl, -⟩
  · rw [ofPiece_of_pieceNames_eq_nil hnil, captureInto_literals, Pattern.capture?]
    simp only [pathPieces_injective.eq_iff]
  · rfl

/-- Parameters that fill segments in the same way are the same under the names of the segments. -/
private theorem find?_eq_of_map_fill? {m m' : Params} {parts : List Segment}
    (h : parts.map (Segment.fill? m) = parts.map (Segment.fill? m')) :
    ∀ name ∈ parts.filterMap Segment.name?, m.find? name = m'.find? name := by
  intro name hname
  obtain ⟨part, hpart, hpn⟩ := List.mem_filterMap.1 hname
  have hfill := List.map_inj_left.1 h part hpart
  cases part with
  | literal s => simp [Segment.name?] at hpn
  | param other =>
    obtain rfl : other = name := Option.some.inj hpn
    exact hfill

/-! ### Matching -/

/-- The parameters are those of the pattern, each is a piece of a path, and in place of their names they give the path. -/
structure Instantiates (raw : String) (params : Params) (path : String) : Prop where
  ascending : params.Ascending
  keys : ∀ name, name ∈ params.map (·.1) ↔ name ∈ paramNames raw
  values : ∀ value ∈ params.map (·.2), value ≠ "" ∧ '/' ∉ value.toList
  filled : fillText? params raw = some path

namespace Instantiates

variable {raw path : String} {m : Params}

private theorem value_of_find? (h : Instantiates raw m path) {name value : String} (hfind : m.find? name = some value) :
    value ≠ "" ∧ '/' ∉ value.toList :=
  h.values value (List.mem_map_of_mem (Keyed.mem_of_find? hfind))

private theorem map_fill? (h : Instantiates raw m path) :
    ((pathPieces raw).map Segment.ofPiece).map (Segment.fill? m) = (pathPieces path).map some := by
  obtain ⟨pieces, hfill, rfl⟩ := fillText?_eq_some_iff.1 h.filled
  have hlength : pieces.length = (pathPieces raw).length := by
    simpa using (congrArg List.length hfill).symm
  have hne : pieces ≠ [] := by
    rw [← List.length_pos_iff, hlength, List.length_pos_iff]
    exact pathPieces_ne_nil raw
  have hslash : ∀ piece ∈ pieces, '/' ∉ piece.toList := by
    intro piece hpiece
    have hmem : some piece ∈ ((pathPieces raw).map Segment.ofPiece).map (Segment.fill? m) := by
      rw [hfill]
      exact List.mem_map_of_mem hpiece
    rw [List.map_map] at hmem
    obtain ⟨q, hq, hqp⟩ := List.mem_map.1 hmem
    rw [Function.comp_apply, ← fillPiece?_eq, fillPiece?] at hqp
    -- a piece of the path is a piece of the pattern or a value
    cases hname : paramName? q with
    | none =>
      rw [hname] at hqp
      obtain rfl : q = piece := Option.some.inj hqp
      exact slash_not_mem_of_mem_pathPieces hq
    | some name =>
      rw [hname] at hqp
      exact (h.value_of_find? hqp).2
  rw [pathPieces_joinPath hne hslash]
  exact hfill

end Instantiates

private theorem nodup_segmentNames {raw : String} {pattern : Pattern} (h : Pattern.parse raw = .ok pattern)
    (hraw : raw ≠ "*") : (((pathPieces raw).map Segment.ofPiece).filterMap Segment.name?).Nodup := by
  rw [filterMap_name?_ofPiece]
  exact nodup_paramNames h hraw

private theorem instantiates_of_capture? {raw : String} {pattern : Pattern} (h : Pattern.parse raw = .ok pattern)
    (hraw : raw ≠ "*") {path : String} {m : Params} (hcapture : pattern.capture? path = some m) :
    Instantiates raw m path := by
  rw [capture?_of_parse h hraw] at hcapture
  obtain ⟨hfill, hvalues, hother⟩ := captureInto_eq_some hcapture (nodup_segmentNames h hraw)
  have hasc := ascending_captureInto hcapture Keyed.ascending_nil
  rw [filterMap_name?_ofPiece] at hvalues hother
  have hkeys : ∀ name, name ∈ m.map (·.1) ↔ name ∈ paramNames raw := by
    intro name
    rw [← Keyed.isSome_find?_iff]
    by_cases hname : name ∈ pieceNames (pathPieces raw)
    · obtain ⟨value, -, hfind, -⟩ := hvalues name hname
      simp [hfind, paramNames, hname]
    · simp [hother name hname, paramNames, hname]
  refine ⟨hasc, hkeys, ?_, ?_⟩
  · intro value hvalue
    obtain ⟨⟨name, value⟩, hmem, rfl⟩ := List.mem_map.1 hvalue
    have hname : name ∈ paramNames raw := (hkeys name).1 (List.mem_map_of_mem hmem)
    obtain ⟨value', hpiece, hfind, hne⟩ := hvalues name hname
    obtain rfl : value' = value := Option.some.inj (hfind.symm.trans (hasc.find?_of_mem hmem))
    exact ⟨hne, slash_not_mem_of_mem_pathPieces hpiece⟩
  · exact fillText?_eq_some_iff.2 ⟨pathPieces path, hfill, joinPath_pathPieces path⟩

private theorem Instantiates.capture?_eq {raw path : String} {m : Params} (hm : Instantiates raw m path)
    {pattern : Pattern} (h : Pattern.parse raw = .ok pattern) (hraw : raw ≠ "*") : pattern.capture? path = some m := by
  have hsome : (captureInto [] ((pathPieces raw).map Segment.ofPiece) (pathPieces path)).isSome := by
    refine isSome_captureInto hm.map_fill? fun name _ hfind => ?_
    exact (hm.value_of_find? hfind).1 rfl
  obtain ⟨m', hcapture⟩ := Option.isSome_iff_exists.1 hsome
  obtain ⟨hfill, -, hother⟩ := captureInto_eq_some hcapture (nodup_segmentNames h hraw)
  have hsame := find?_eq_of_map_fill? (hfill.trans hm.map_fill?.symm)
  rw [filterMap_name?_ofPiece] at hother hsame
  -- both fill the segments, and neither has any other key
  have heq : m' = m := by
    refine (ascending_captureInto hcapture Keyed.ascending_nil).ext hm.ascending fun name => ?_
    by_cases hname : name ∈ paramNames raw
    · exact hsame name hname
    · have hnone : m.find? name = none := by
        rw [← Option.not_isSome_iff_eq_none, Keyed.isSome_find?_iff, hm.keys]
        exact hname
      rw [hother name hname, hnone, Keyed.find?_nil]
  rw [capture?_of_parse h hraw, hcapture, heq]

/-- Matching a path gives the parameters that instantiate the pattern to the path. -/
private theorem capture?_eq_some_iff {raw : String} {pattern : Pattern} (h : Pattern.parse raw = .ok pattern)
    (hraw : raw ≠ "*") {path : String} {m : Params} : pattern.capture? path = some m ↔ Instantiates raw m path :=
  ⟨instantiates_of_capture? h hraw, fun hm => hm.capture?_eq h hraw⟩

/-- The pieces of a path that matches, each in its place. -/
private theorem Instantiates.fill?_piece {raw path : String} {m : Params} (h : Instantiates raw m path) (i : Nat) :
    (pathPieces raw)[i]?.bind (fillPiece? m) = (pathPieces path)[i]? := by
  have hi := congrArg (·[i]?) h.map_fill?
  simp only [List.getElem?_map, Option.map_map] at hi
  cases hraw : (pathPieces raw)[i]? with
  | none =>
    rw [hraw] at hi
    cases hpath : (pathPieces path)[i]? with
    | none => rfl
    | some other => simp [hpath] at hi
  | some piece =>
    rw [hraw] at hi
    cases hpath : (pathPieces path)[i]? with
    | none => simp [hpath] at hi
    | some other =>
      rw [hpath] at hi
      rw [Option.bind_some, fillPiece?_eq]
      exact Option.some.inj hi

private theorem Instantiates.length_eq {raw path : String} {m : Params} (h : Instantiates raw m path)
    (hnodup : (paramNames raw).Nodup) : m.length = (paramNames raw).length := by
  have hkeys : (m.map (·.1)).Nodup := List.Pairwise.imp String.ne_of_lt h.ascending
  have hperm := (List.perm_ext_iff_of_nodup hkeys hnodup).2 h.keys
  simpa using hperm.length_eq

/-- A path matches a written pattern with some parameters exactly if these are the parameters of the pattern, each of
them a piece of a path, and put in place of their names they give the path. So a path of another length does not match,
there is one way to match, a pattern without parameters matches itself alone, and each parameter has the piece of the
path that stands in its place. -/
theorem capture?_iff_instantiates {raw : String} {pattern : Pattern} (h : Pattern.parse raw = .ok pattern)
    (hraw : raw ≠ "*") :
    (∀ path m, pattern.capture? path = some m ↔ Instantiates raw m path) ∧
      (∀ path m m', Instantiates raw m path → Instantiates raw m' path → m = m') ∧
      (∀ path, (pathPieces path).length ≠ (pathPieces raw).length → pattern.capture? path = none) ∧
      (paramNames raw = [] → ∀ path, pattern.capture? path = if path = raw then some [] else none) ∧
      ∀ path m, pattern.capture? path = some m → m.length = (paramNames raw).length ∧
        ∀ (i : Nat) (piece name : String), (pathPieces raw)[i]? = some piece → paramName? piece = some name →
          m.find? name = (pathPieces path)[i]? := by
  refine ⟨fun path m => capture?_eq_some_iff h hraw, ?_, ?_, ?_, ?_⟩
  · intro path m m' hm hm'
    rw [← capture?_eq_some_iff h hraw] at hm hm'
    exact Option.some.inj (hm.symm.trans hm')
  · intro path hlength
    cases hcapture : pattern.capture? path with
    | none => rfl
    | some m =>
      have hfill := ((capture?_eq_some_iff h hraw).1 hcapture).map_fill?
      exact absurd (by simpa using (congrArg List.length hfill).symm) hlength
  · intro hnil path
    rw [capture?_of_parse h hraw, ofPiece_of_pieceNames_eq_nil hnil, captureInto_literals]
    simp only [pathPieces_injective.eq_iff, eq_comm]
  · intro path m hcapture
    have hm := (capture?_eq_some_iff h hraw).1 hcapture
    refine ⟨hm.length_eq (nodup_paramNames h hraw), ?_⟩
    intro i piece name hpiece hname
    rw [← hm.fill?_piece, hpiece, Option.bind_some, fillPiece?, hname]

/-- Two parameters that stand in another order than that of their names. -/
theorem capture?_user_of_org :
    let pattern : Pattern := .segments [.literal "", .literal "user", .param "user", .literal "of", .param "org"]
    let m : Params := [("org", "o1"), ("user", "u7")]
    Pattern.parse "/user/:user/of/:org" = .ok pattern ∧ "/user/:user/of/:org" ≠ "*" ∧
      pattern.capture? "/user/u7/of/o1" = some m ∧ Instantiates "/user/:user/of/:org" m "/user/u7/of/o1" := by
  intro pattern m
  have h : Pattern.parse "/user/:user/of/:org" = .ok pattern := by rfl
  have hraw : "/user/:user/of/:org" ≠ "*" := by decide
  have hcapture : pattern.capture? "/user/u7/of/o1" = some m := by decide
  exact ⟨h, hraw, hcapture, ((capture?_iff_instantiates h hraw).1 _ _).1 hcapture⟩

end ConsoleShell
