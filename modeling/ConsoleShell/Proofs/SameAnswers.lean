import ConsoleShell.Proofs.Captures
import ConsoleShell.Proofs.FirstMatch
import ConsoleShell.Proofs.PatternGrammar
import ConsoleShell.Route.Site

/-!
# Tables that answer the same

Two things can be said in two ways. A pattern without parameters is kept as a whole path, where its pieces could be kept
and matched one by one; and the view of a path that no route matches can be left to the fallback or to a catch-all at the
end. A table answers the same in either way.

* `captureInto_literals` decides the first: pieces match one by one exactly if the paths are the same.
* `exists_ofEntries_concat_star`: a catch-all behind the routes of a table finds what was not found before.
* `fixed_eq_segments`, `fallback_eq_catchAll`: the two ways compared.
-/

namespace ConsoleShell

open Text

variable {V : Type}

/-- A path is matched as a whole as its pieces are one by one. -/
private theorem capture?_fixed (raw path : String) :
    (Pattern.fixed raw).capture? path = (Pattern.segments ((pathPieces raw).map .literal)).capture? path := by
  rw [Pattern.capture?, Pattern.capture?, captureInto_literals]
  simp only [pathPieces_injective.eq_iff]

private theorem text_literals (raw : String) : (Pattern.segments ((pathPieces raw).map .literal)).text = raw := by
  have htext : Segment.text ∘ Segment.literal = id := rfl
  rw [Pattern.text, List.map_map, htext, List.map_id, joinPath_pathPieces]

private theorem pieceNames_eq_nil {pieces : List String} (h : ∀ piece ∈ pieces, ¬ IsParam piece) :
    pieceNames pieces = [] := by
  rw [pieceNames, List.filterMap_eq_nil_iff]
  intro piece hpiece
  rw [Option.eq_none_iff_forall_ne_some]
  exact fun name hname => h piece hpiece (isParam_iff.2 ⟨name, hname⟩)

/-- Without a parameter among them, all pieces are read as literals. -/
private theorem parseSegments_literals {pieces : List String} (h : ∀ piece ∈ pieces, ¬ IsParam piece) :
    parseSegments [] pieces = .ok (pieces.map .literal) := by
  have hnil := pieceNames_eq_nil h
  rw [parseSegments_eq_ok_iff, hnil, ofPiece_of_pieceNames_eq_nil hnil]
  exact ⟨rfl, List.nodup_nil, by simp⟩

/-- A route answers for its table by what it matches alone. -/
private theorem find?_congr_route {r r' : Route V} (h : ∀ path, r.match? path = r'.match? path)
    (before after : List (Route V)) (path : String) :
    Table.find? ⟨before ++ r :: after⟩ path = Table.find? ⟨before ++ r' :: after⟩ path := by
  rw [Table.find?, Table.find?, List.findSome?_append, List.findSome?_append, List.findSome?_cons, List.findSome?_cons,
    h path]

/-- A pattern without parameters is a fixed path, and read piece by piece it would be its literals. Either way it matches
the same paths with the same parameters and is written the same; it is no catch-all, and a table that has the one in place
of the other finds the same for every path. -/
theorem fixed_eq_segments {raw : String} {p : Pattern} (h : Pattern.parse raw = .ok p) (hstar : raw ≠ "*")
    (hno : ∀ piece ∈ pathPieces raw, ¬ IsParam piece) :
    let whole := Pattern.fixed raw
    let inPieces := Pattern.segments ((pathPieces raw).map .literal)
    p = whole ∧ (parseSegments [] (pathPieces raw)).map .segments = .ok inPieces ∧
      (∀ path, whole.capture? path = inPieces.capture? path) ∧
      whole.text = inPieces.text ∧ whole.isCatchAll = inPieces.isCatchAll ∧
      ∀ (V : Type) (before after : List (Route V)) (view : V) (path : String),
        Table.find? ⟨before ++ ⟨raw, whole, view⟩ :: after⟩ path =
          Table.find? ⟨before ++ ⟨raw, inPieces, view⟩ :: after⟩ path := by
  intro whole inPieces
  have hcapture : ∀ path, whole.capture? path = inPieces.capture? path := capture?_fixed raw
  refine ⟨?_, ?_, hcapture, (text_literals raw).symm, rfl, ?_⟩
  · obtain ⟨path, hpath⟩ := exists_parse_fixed_iff.2 ⟨⟨p, h⟩, hstar, hno⟩
    have htext : path = raw := text_of_parse hpath
    rw [htext] at hpath
    exact Except.ok.inj (h.symm.trans hpath)
  · rw [parseSegments_literals hno]
    rfl
  · intro V before after view path
    refine find?_congr_route (fun path => ?_) before after path
    rw [Route.match?, Route.match?, hcapture]

/-- A path with empty pieces, matched as a whole and piece by piece, in front of a catch-all. -/
theorem doubled_slash_matches :
    let inPieces : Pattern := .segments [.literal "", .literal "a", .literal "", .literal "b", .literal ""]
    Pattern.parse "/a//b/" = .ok (.fixed "/a//b/") ∧ "/a//b/" ≠ "*" ∧ (∀ piece ∈ pathPieces "/a//b/", ¬ IsParam piece) ∧
      inPieces.capture? "/a//b/" = some [] ∧ inPieces.capture? "/a/b" = none ∧
      Table.find? ⟨[⟨"/a//b/", inPieces, 1⟩, ⟨"*", .catchAll, 2⟩]⟩ "/a//b/" = some (1, []) := by
  intro inPieces
  have h : Pattern.parse "/a//b/" = .ok (.fixed "/a//b/") := by rfl
  have hstar : "/a//b/" ≠ "*" := by decide
  have hno : ∀ piece ∈ pathPieces "/a//b/", ¬ IsParam piece := by decide
  obtain ⟨-, -, hcapture, -, -, hfind⟩ := fixed_eq_segments h hstar hno
  refine ⟨h, hstar, hno, (hcapture "/a//b/").symm.trans (by decide), (hcapture "/a/b").symm.trans (by decide), ?_⟩
  exact (hfind Nat [] [⟨"*", .catchAll, 2⟩] 1 "/a//b/").symm.trans (by decide)

/-- A catch-all is accepted behind texts of which the last is none. -/
private theorem Acceptable.concat_star {texts : List String} (h : Acceptable texts)
    (hlast : texts.getLast? ≠ some "*") : Acceptable (texts ++ ["*"]) where
  readable := by
    intro text htext
    rcases List.mem_append.1 htext with htext | htext
    · exact h.readable text htext
    · obtain rfl := List.mem_singleton.1 htext
      exact ⟨.catchAll, rfl⟩
  lastOnly := by
    intro i hi
    rw [List.length_append, List.length_singleton]
    rcases Nat.lt_or_ge i texts.length with hlt | hge
    · -- a catch-all among the texts would be the last of them
      rw [List.getElem?_append_left hlt] at hi
      have hend := h.lastOnly i hi
      rw [List.getLast?_eq_getElem?, ← hend, Nat.add_sub_cancel] at hlast
      exact absurd hi hlast
    · have hle := (List.getElem?_eq_some_iff.1 hi).1
      rw [List.length_append, List.length_singleton] at hle
      omega

/-- Behind the routes of a table without a catch-all, one is accepted; it finds what was not found before. -/
theorem exists_ofEntries_concat_star {entries : List (String × V)} {t : Table V} (h : Table.ofEntries entries = .ok t)
    (hcatch : t.hasCatchAll = false) (view : V) :
    ∃ t', Table.ofEntries (entries ++ [("*", view)]) = .ok t' ∧
      ∀ path, t'.find? path = some ((t.find? path).getD (view, [])) := by
  have hlast : (entries.map (·.1)).getLast? ≠ some "*" := by
    rw [ne_eq, ← hasCatchAll_iff h, hcatch]
    simp
  have hnew : Acceptable ((entries ++ [("*", view)]).map (·.1)) := by
    rw [List.map_append]
    exact (exists_ofEntries_iff.1 ⟨t, h⟩).concat_star hlast
  obtain ⟨t', ht'⟩ := exists_ofEntries_iff.2 hnew
  refine ⟨t', ht', fun path => ?_⟩
  have hstar : firstMatch? [("*", view)] path = some (view, []) := by
    rw [firstMatch?, List.findSome?_singleton, textCapture?_star]
    rfl
  rw [find?_eq_firstMatch? ht', find?_eq_firstMatch? h, firstMatch?_append, hstar]
  cases firstMatch? entries path <;> rfl

/-- A table of views without a catch-all can be given one that leads to `notFound`. Then every path is found, with the view
and the parameters that are shown without it. -/
theorem fallback_eq_catchAll {entries : List (String × View)} {t : Table View} (h : Table.ofEntries entries = .ok t)
    (hcatch : t.hasCatchAll = false) :
    ∃ t', Table.ofEntries (entries ++ [("*", .notFound)]) = .ok t' ∧ t'.hasCatchAll = true ∧
      (∀ path, t'.find? path = some (resolveView t path)) ∧ ∀ path, resolveView t' path = resolveView t path := by
  obtain ⟨t', ht', hfind⟩ := exists_ofEntries_concat_star h hcatch .notFound
  refine ⟨t', ht', ?_, hfind, ?_⟩
  · rw [hasCatchAll_iff ht', List.map_append]
    exact List.getLast?_concat
  · intro path
    rw [resolveView, hfind]
    rfl

/-- Without the catch-all of its console, a path of an organization leads where it led, and any other to `notFound`. -/
theorem fallback_of_org :
    let entries : List (String × View) := [("/orgs", .orgs), ("/org/:id", .org)]
    let t : Table View := ⟨[⟨"/orgs", .fixed "/orgs", .orgs⟩,
      ⟨"/org/:id", .segments [.literal "", .literal "org", .param "id"], .org⟩]⟩
    Table.ofEntries entries = .ok t ∧ t.hasCatchAll = false ∧
      ∃ t', Table.ofEntries [("/orgs", .orgs), ("/org/:id", .org), ("*", .notFound)] = .ok t' ∧
        resolveView t' "/org/o1" = (.org, [("id", "o1")]) ∧ resolveView t' "/org/" = (.notFound, []) := by
  intro entries t
  have h : Table.ofEntries entries = .ok t := by rfl
  have hcatch : t.hasCatchAll = false := by decide
  obtain ⟨t', ht', -, -, hresolve⟩ := fallback_eq_catchAll h hcatch
  exact ⟨h, hcatch, t', ht', (hresolve "/org/o1").trans (by decide), (hresolve "/org/").trans (by decide)⟩

end ConsoleShell
