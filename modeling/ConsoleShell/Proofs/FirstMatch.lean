import ConsoleShell.Proofs.PatternTexts
import ConsoleShell.Route.Table

/-!
# The first match decides

A table is accepted if every pattern can be read and only the last one is a catch-all. What it finds for a path is what
the first matching entry says, and the entries behind that one play no part.

* `ofEntries_eq_ok_iff`: which entries make a table, and which table they make.
* `first_match_decides`: the entry that decides about a path, and what a further entry changes about it.
-/

namespace ConsoleShell

variable {V : Type}

theorem readRoutes_eq_ok_iff {entries : List (String × V)} {routes : List (Route V)} :
    readRoutes entries = .ok routes ↔
      routes.map (fun r => (r.text, r.view)) = entries ∧ ∀ r ∈ routes, Pattern.parse r.text = .ok r.pattern := by
  induction entries generalizing routes with
  | nil =>
    cases routes with
    | nil => simp [readRoutes]
    | cons r routes => simp [readRoutes]
  | cons e entries ih =>
    obtain ⟨text, view⟩ := e
    rw [readRoutes]
    cases hp : Pattern.parse text with
    | error cause =>
      constructor
      · simp
      · rintro ⟨hmap, hparse⟩
        cases routes with
        | nil => simp at hmap
        | cons r routes =>
          simp only [List.map_cons, List.cons.injEq, Prod.mk.injEq] at hmap
          obtain ⟨⟨rfl, -⟩, -⟩ := hmap
          rw [hparse r (by simp)] at hp
          simp at hp
    | ok pattern =>
      rw [except_map_eq_ok]
      constructor
      · rintro ⟨rest, hrest, rfl⟩
        obtain ⟨hmap, hparse⟩ := ih.1 hrest
        refine ⟨by simp [hmap], ?_⟩
        intro r hr
        rcases List.mem_cons.1 hr with rfl | hr
        · exact hp
        · exact hparse r hr
      · rintro ⟨hmap, hparse⟩
        cases routes with
        | nil => simp at hmap
        | cons r rest =>
          simp only [List.map_cons, List.cons.injEq, Prod.mk.injEq] at hmap
          obtain ⟨⟨rfl, rfl⟩, hmap⟩ := hmap
          have hr : pattern = r.pattern := Except.ok.inj (hp.symm.trans (hparse r (by simp)))
          exact ⟨rest, ih.2 ⟨hmap, fun q hq => hparse q (List.mem_cons_of_mem _ hq)⟩, by rw [hr]⟩

/-- A catch-all stands at the end. -/
def LastOnly (routes : List (Route V)) : Prop :=
  ∀ (i : Nat) (r : Route V), routes[i]? = some r → r.isCatchAll = true → i + 1 = routes.length

private theorem countP_add_findIdx_le {α : Type} (p : α → Bool) (l : List α) : l.countP p + l.findIdx p ≤ l.length := by
  induction l with
  | nil => simp
  | cons a l ih =>
    rw [List.countP_cons, List.findIdx_cons, List.length_cons]
    cases hp : p a with
    | true =>
      have := List.countP_le_length (p := p) (l := l)
      simp
      omega
    | false =>
      simp
      omega

/-- Looking at the first catch-all is enough: a second one would stand behind it. -/
private theorem lastOnly_iff {routes : List (Route V)} :
    LastOnly routes ↔ ¬ 1 < routes.countP Route.isCatchAll ∧ ¬ routes.findIdx Route.isCatchAll + 1 < routes.length := by
  have hcount := countP_add_findIdx_le Route.isCatchAll routes
  constructor
  · intro h
    have hidx : ¬ routes.findIdx Route.isCatchAll + 1 < routes.length := by
      intro hlt
      have hl : routes.findIdx Route.isCatchAll < routes.length := by omega
      have := h _ _ (List.getElem?_eq_getElem hl) List.findIdx_getElem
      omega
    exact ⟨by omega, hidx⟩
  · rintro ⟨-, hidx⟩ i r hi hr
    obtain ⟨hlt, rfl⟩ := List.getElem?_eq_some_iff.1 hi
    have hle : ¬ i < routes.findIdx Route.isCatchAll := by
      intro hif
      have := List.not_of_lt_findIdx hif
      rw [hr] at this
      simp at this
    omega

/-- The entries of a table can be read, and a catch-all among them stands at the end; all such entries make a table. -/
theorem ofEntries_eq_ok_iff {entries : List (String × V)} {t : Table V} :
    Table.ofEntries entries = .ok t ↔
      t.entries = entries ∧ (∀ r ∈ t.routes, Pattern.parse r.text = .ok r.pattern) ∧ LastOnly t.routes := by
  rw [← and_assoc, Table.entries, ← readRoutes_eq_ok_iff, lastOnly_iff, Table.ofEntries]
  cases hread : readRoutes entries with
  | error e => simp
  | ok routes =>
    dsimp only
    by_cases hcount : 1 < routes.countP Route.isCatchAll
    · rw [if_pos hcount]
      simp only [reduceCtorEq, Except.ok.injEq, false_iff]
      rintro ⟨rfl, hno, -⟩
      exact hno hcount
    · rw [if_neg hcount]
      by_cases hidx : routes.findIdx Route.isCatchAll + 1 < routes.length
      · rw [if_pos hidx]
        simp only [reduceCtorEq, Except.ok.injEq, false_iff]
        rintro ⟨rfl, -, hno⟩
        exact hno hidx
      · rw [if_neg hidx]
        simp only [Except.ok.injEq]
        constructor
        · rintro rfl
          exact ⟨rfl, hcount, hidx⟩
        · rintro ⟨rfl, -, -⟩
          rfl

/-- Only the text `*` is a catch-all. -/
theorem isCatchAll_iff_of_parse {text : String} {pattern : Pattern} (h : Pattern.parse text = .ok pattern) :
    pattern.isCatchAll = true ↔ text = "*" := by
  by_cases htext : text = "*"
  · subst htext
    obtain rfl : Pattern.catchAll = pattern := Except.ok.inj h
    simp [Pattern.isCatchAll]
  · rcases cases_of_parse h htext with ⟨rfl, -⟩ | ⟨rfl, -⟩ <;> simp [Pattern.isCatchAll, htext]

theorem exists_readRoutes {entries : List (String × V)} (h : ∀ e ∈ entries, ∃ pattern, Pattern.parse e.1 = .ok pattern) :
    ∃ routes, readRoutes entries = .ok routes := by
  induction entries with
  | nil => exact ⟨[], rfl⟩
  | cons e entries ih =>
    obtain ⟨pattern, hp⟩ := h e List.mem_cons_self
    obtain ⟨routes, hroutes⟩ := ih fun d hd => h d (List.mem_cons_of_mem _ hd)
    refine ⟨⟨e.1, pattern, e.2⟩ :: routes, ?_⟩
    rw [readRoutes, hp, hroutes]
    rfl

/-- Every pattern can be read, and none but the last one is `*`. -/
structure Acceptable (texts : List String) : Prop where
  readable : ∀ text ∈ texts, ∃ pattern, Pattern.parse text = .ok pattern
  lastOnly : ∀ i : Nat, texts[i]? = some "*" → i + 1 = texts.length

theorem exists_ofEntries_iff {entries : List (String × V)} :
    (∃ t, Table.ofEntries entries = .ok t) ↔ Acceptable (entries.map (·.1)) := by
  constructor
  · rintro ⟨t, ht⟩
    obtain ⟨rfl, hparse, hlast⟩ := ofEntries_eq_ok_iff.1 ht
    have htexts : t.entries.map (·.1) = t.routes.map Route.text := by
      rw [Table.entries, List.map_map]
      rfl
    rw [htexts]
    refine ⟨?_, ?_⟩
    · intro text htext
      obtain ⟨r, hr, rfl⟩ := List.mem_map.1 htext
      exact ⟨r.pattern, hparse r hr⟩
    · intro i hi
      rw [List.getElem?_map, Option.map_eq_some_iff] at hi
      obtain ⟨r, hr, hstar⟩ := hi
      have hcatch := (isCatchAll_iff_of_parse (hparse r (List.mem_of_getElem? hr))).2 hstar
      rw [List.length_map]
      exact hlast i r hr hcatch
  · rintro ⟨hreadable, hlast⟩
    obtain ⟨routes, hroutes⟩ := exists_readRoutes fun e he => hreadable e.1 (List.mem_map_of_mem he)
    obtain ⟨rfl, hread⟩ := readRoutes_eq_ok_iff.1 hroutes
    refine ⟨⟨routes⟩, ofEntries_eq_ok_iff.2 ⟨rfl, hread, ?_⟩⟩
    intro i r hi hcatch
    have hstar := (isCatchAll_iff_of_parse (hread r (List.mem_of_getElem? hi))).1 hcatch
    have := hlast i (by simp [hi, hstar])
    simpa using this

/-- A table has a catch-all if its last pattern is `*`. -/
theorem hasCatchAll_iff {entries : List (String × V)} {t : Table V} (h : Table.ofEntries entries = .ok t) :
    t.hasCatchAll = true ↔ (entries.map (·.1)).getLast? = some "*" := by
  obtain ⟨rfl, hparse, -⟩ := ofEntries_eq_ok_iff.1 h
  rw [Table.hasCatchAll, Table.entries, List.map_map, List.getLast?_map]
  cases hlast : t.routes.getLast? with
  | none => simp
  | some r =>
    have hr := isCatchAll_iff_of_parse (hparse r (List.mem_of_getLast? hlast))
    simpa [Route.isCatchAll] using hr

/-! ### The deciding entry -/

/-- The parameters that a path gives to a pattern as it is written. -/
def textCapture? (text path : String) : Option Params :=
  match Pattern.parse text with
  | .ok pattern => pattern.capture? path
  | .error _ => none

/-- Of the patterns as they are written, the one at place `i` is the first that matches the path. -/
structure Decides (texts : List String) (path : String) (i : Nat) (m : Params) : Prop where
  matched : ∃ text, texts[i]? = some text ∧ textCapture? text path = some m
  first : ∀ (j : Nat) (text : String), j < i → texts[j]? = some text → textCapture? text path = none

private theorem findSome?_congr {α β : Type} {f g : α → Option β} {l : List α} (h : ∀ a ∈ l, f a = g a) :
    l.findSome? f = l.findSome? g := by
  induction l with
  | nil => rfl
  | cons a l ih =>
    rw [List.findSome?_cons, List.findSome?_cons, h a List.mem_cons_self,
      ih fun b hb => h b (List.mem_cons_of_mem _ hb)]

def firstMatch? (entries : List (String × V)) (path : String) : Option (V × Params) :=
  entries.findSome? fun e => (textCapture? e.1 path).map fun m => (e.2, m)

/-- Matching goes through the entries as they were given. -/
theorem find?_eq_firstMatch? {entries : List (String × V)} {t : Table V} (h : Table.ofEntries entries = .ok t)
    (path : String) : t.find? path = firstMatch? entries path := by
  obtain ⟨rfl, hparse, -⟩ := ofEntries_eq_ok_iff.1 h
  rw [Table.find?, firstMatch?, Table.entries, List.findSome?_map]
  have hmatch : ∀ r ∈ t.routes, r.match? path = (textCapture? r.text path).map fun m => (r.view, m) := by
    intro r hr
    rw [Route.match?, textCapture?, hparse r hr]
  exact findSome?_congr hmatch

private theorem firstMatch?_eq_some_iff {entries : List (String × V)} {path : String} {v : V} {m : Params} :
    firstMatch? entries path = some (v, m) ↔
      ∃ i, Decides (entries.map (·.1)) path i m ∧ (entries[i]?).map (·.2) = some v := by
  rw [firstMatch?, List.findSome?_eq_some_iff]
  constructor
  · rintro ⟨before, e, after, rfl, hmatch, hbefore⟩
    rw [Option.map_eq_some_iff] at hmatch
    obtain ⟨m', hm, heq⟩ := hmatch
    obtain ⟨rfl, rfl⟩ := Prod.mk.inj heq
    refine ⟨before.length, ⟨⟨e.1, by simp, hm⟩, ?_⟩, by simp⟩
    intro j text hj htext
    rw [List.getElem?_map, List.getElem?_append_left hj, Option.map_eq_some_iff] at htext
    obtain ⟨d, hd, rfl⟩ := htext
    simpa using hbefore d (List.mem_of_getElem? hd)
  · rintro ⟨i, ⟨⟨text, hplace, hm⟩, hfirst⟩, hview⟩
    rw [List.getElem?_map, Option.map_eq_some_iff] at hplace
    obtain ⟨e, he, rfl⟩ := hplace
    obtain rfl : e.2 = v := by simpa [he] using hview
    obtain ⟨hi, rfl⟩ := List.getElem?_eq_some_iff.1 he
    refine ⟨entries.take i, entries[i], entries.drop (i + 1), by simp, by simp [hm], ?_⟩
    intro d hd
    obtain ⟨j, hj⟩ := List.mem_iff_getElem?.1 hd
    rw [List.getElem?_take] at hj
    split at hj
    · rename_i hji
      simp [hfirst j d.1 hji (by simp [hj])]
    · simp at hj

private theorem firstMatch?_eq_none_iff {entries : List (String × V)} {path : String} :
    firstMatch? entries path = none ↔ ∀ e ∈ entries, textCapture? e.1 path = none := by
  simp [firstMatch?]

theorem textCapture?_of_parse {text : String} {pattern : Pattern} (h : Pattern.parse text = .ok pattern) (path : String) :
    textCapture? text path = pattern.capture? path := by
  rw [textCapture?, h]

theorem textCapture?_star (path : String) : textCapture? "*" path = some [] := by
  have hstar : Pattern.parse "*" = .ok .catchAll := rfl
  exact textCapture?_of_parse hstar path

/-- With a catch-all, there is no path that nothing matches. -/
private theorem find?_ne_none_of_hasCatchAll {entries : List (String × V)} {t : Table V}
    (h : Table.ofEntries entries = .ok t) (hcatch : t.hasCatchAll = true) (path : String) : t.find? path ≠ none := by
  obtain ⟨e, he, hstar⟩ := List.mem_map.1 (List.mem_of_getLast? ((hasCatchAll_iff h).1 hcatch))
  rw [find?_eq_firstMatch? h, ne_eq, firstMatch?_eq_none_iff]
  intro hnone
  have := hnone e he
  rw [hstar, textCapture?_star] at this
  simp at this

/-! ### A further entry -/

/-- A further pattern is accepted anywhere before the catch-all. -/
private theorem Acceptable.insert {before after : List String} (h : Acceptable (before ++ after)) {text : String}
    {pattern : Pattern} (hp : Pattern.parse text = .ok pattern) (htext : text ≠ "*")
    (hplace : (before ++ after).getLast? = some "*" → after ≠ []) : Acceptable (before ++ text :: after) where
  readable := by
    intro other hother
    rcases List.mem_append.1 hother with hother | hother
    · exact h.readable other (List.mem_append_left _ hother)
    · rcases List.mem_cons.1 hother with rfl | hother
      · exact ⟨pattern, hp⟩
      · exact h.readable other (List.mem_append_right _ hother)
  lastOnly := by
    intro i hi
    rw [List.length_append, List.length_cons]
    rcases Nat.lt_trichotomy i before.length with hlt | heq | hgt
    · -- a catch-all in front would be the last one so far, and then the new pattern does not go behind it
      have hold : (before ++ after)[i]? = some "*" := by
        rw [List.getElem?_append_left hlt] at hi ⊢
        exact hi
      have hlength := h.lastOnly i hold
      have hend : (before ++ after).getLast? = some "*" := by
        rw [List.getLast?_eq_getElem?, ← hlength, Nat.add_sub_cancel, hold]
      have hafter := List.length_pos_iff.2 (hplace hend)
      rw [List.length_append] at hlength
      omega
    · subst heq
      exact absurd (by simpa using hi) htext
    · have hold : (before ++ after)[i - 1]? = some "*" := by
        rw [List.getElem?_append_right (by omega)] at hi ⊢
        obtain ⟨k, hk⟩ : ∃ k, i - before.length = k + 1 := ⟨i - before.length - 1, by omega⟩
        rw [hk, List.getElem?_cons_succ] at hi
        rw [show i - 1 - before.length = k by omega]
        exact hi
      have hlength := h.lastOnly (i - 1) hold
      rw [List.length_append] at hlength
      omega

theorem firstMatch?_append (before after : List (String × V)) (path : String) :
    firstMatch? (before ++ after) path = (firstMatch? before path).or (firstMatch? after path) :=
  List.findSome?_append

/-- The table with a further entry: it is looked at after the entries in front of it. -/
private theorem exists_ofEntries_insert {before after : List (String × V)} {t : Table V}
    (h : Table.ofEntries (before ++ after) = .ok t) {text : String} {pattern : Pattern}
    (hp : Pattern.parse text = .ok pattern) (hcatch : pattern.isCatchAll = false)
    (hplace : t.hasCatchAll = true → after ≠ []) (view : V) :
    ∃ t', Table.ofEntries (before ++ (text, view) :: after) = .ok t' ∧ ∀ path, t'.find? path =
      (firstMatch? before path).or (((pattern.capture? path).map fun m => (view, m)).or (firstMatch? after path)) := by
  have htext : text ≠ "*" := by
    intro hstar
    rw [(isCatchAll_iff_of_parse hp).2 hstar] at hcatch
    simp at hcatch
  have hold := exists_ofEntries_iff.1 ⟨t, h⟩
  rw [List.map_append] at hold
  have hnew : Acceptable ((before ++ (text, view) :: after).map (·.1)) := by
    rw [List.map_append, List.map_cons]
    refine hold.insert hp htext fun hlast => ?_
    rw [← List.map_append, ← hasCatchAll_iff h] at hlast
    simpa using hplace hlast
  obtain ⟨t', ht'⟩ := exists_ofEntries_iff.2 hnew
  refine ⟨t', ht', fun path => ?_⟩
  have hcons : firstMatch? ((text, view) :: after) path =
      ((pattern.capture? path).map fun m => (view, m)).or (firstMatch? after path) := by
    rw [firstMatch?, List.findSome?_cons, textCapture?_of_parse hp]
    cases pattern.capture? path <;> rfl
  rw [find?_eq_firstMatch? ht', firstMatch?_append, hcons]

/-- With places for views, a table says which entry decides. -/
private theorem exists_ofEntries_mapIdx {entries : List (String × V)} {t : Table V}
    (h : Table.ofEntries entries = .ok t) :
    ∃ places, Table.ofEntries (entries.mapIdx fun i e => (e.1, i)) = .ok places ∧
      ∀ path i m, places.find? path = some (i, m) ↔ Decides (entries.map (·.1)) path i m := by
  have htexts : (entries.mapIdx fun i e => (e.1, i)).map (·.1) = entries.map (·.1) :=
    List.ext_getElem? fun i => by simp [Function.comp_def]
  have hold := exists_ofEntries_iff.1 ⟨t, h⟩
  rw [← htexts] at hold
  obtain ⟨places, hplaces⟩ := exists_ofEntries_iff.2 hold
  refine ⟨places, hplaces, fun path i m => ?_⟩
  rw [find?_eq_firstMatch? hplaces, firstMatch?_eq_some_iff, htexts]
  constructor
  · rintro ⟨j, hj, hview⟩
    obtain ⟨-, hji⟩ : (∃ e, entries[j]? = some e) ∧ j = i := by simpa using hview
    rw [← hji]
    exact hj
  · intro hi
    obtain ⟨text, htext, -⟩ := hi.matched
    obtain ⟨e, he, -⟩ : ∃ e, entries[i]? = some e ∧ e.1 = text := by simpa using htext
    exact ⟨i, hi, by simp [he]⟩

/-- The table that entries make gives a path to the first entry that matches it, wherever its view stands elsewhere; a
path that no entry matches is not found, and there is none if there is a catch-all. A further entry, put anywhere before
the catch-all, takes the paths that it matches and no entry in front of it does, and leaves all others as they were. -/
theorem first_match_decides {entries : List (String × V)} {t : Table V} (h : Table.ofEntries entries = .ok t) :
    (∀ path v m, t.find? path = some (v, m) ↔
      ∃ i, Decides (entries.map (·.1)) path i m ∧ (entries[i]?).map (·.2) = some v) ∧
      (∃ places, Table.ofEntries (entries.mapIdx fun i e => (e.1, i)) = .ok places ∧
        ∀ path i m, places.find? path = some (i, m) ↔ Decides (entries.map (·.1)) path i m) ∧
      (∀ path, t.find? path = none ↔ ∀ e ∈ entries, textCapture? e.1 path = none) ∧
      (t.hasCatchAll = true → ∀ path, t.find? path ≠ none) ∧
      ∀ before after text view pattern, entries = before ++ after → Pattern.parse text = .ok pattern →
        pattern.isCatchAll = false → (t.hasCatchAll = true → after ≠ []) →
        ∃ t', Table.ofEntries (before ++ (text, view) :: after) = .ok t' ∧ ∀ path,
          (∀ m, pattern.capture? path = some m → (∀ e ∈ before, textCapture? e.1 path = none) →
            t'.find? path = some (view, m)) ∧
          (pattern.capture? path = none ∨ (∃ e ∈ before, textCapture? e.1 path ≠ none) →
            t'.find? path = t.find? path) := by
  refine ⟨?_, exists_ofEntries_mapIdx h, ?_, find?_ne_none_of_hasCatchAll h, ?_⟩
  · intro path v m
    rw [find?_eq_firstMatch? h, firstMatch?_eq_some_iff]
  · intro path
    rw [find?_eq_firstMatch? h, firstMatch?_eq_none_iff]
  · rintro before after text view pattern rfl hp hcatch hplace
    obtain ⟨t', ht', hfind⟩ := exists_ofEntries_insert h hp hcatch hplace view
    refine ⟨t', ht', fun path => ?_⟩
    rw [hfind, find?_eq_firstMatch? h, firstMatch?_append]
    constructor
    · intro m hm hbefore
      rw [firstMatch?_eq_none_iff.2 hbefore, hm]
      rfl
    · rintro (hnone | ⟨e, he, hmatch⟩)
      · rw [hnone]
        rfl
      · -- an entry in front matches, so nothing behind it is looked at
        cases hfirst : firstMatch? before path with
        | none => exact absurd (firstMatch?_eq_none_iff.1 hfirst e he) hmatch
        | some found => rfl

/-- A fixed path in front of a pattern that matches it, too. -/
theorem first_match_of_new_item :
    let entries : List (String × String) := [("/item/:id", "item"), ("*", "missing")]
    let t : Table String :=
      ⟨[⟨"/item/:id", .segments [.literal "", .literal "item", .param "id"], "item"⟩, ⟨"*", .catchAll, "missing"⟩]⟩
    Table.ofEntries entries = .ok t ∧ t.hasCatchAll = true ∧ entries ≠ [] ∧
      t.find? "/item/new" = some ("item", [("id", "new")]) ∧
      ∃ t', Table.ofEntries (("/item/new", "new") :: entries) = .ok t' ∧
        t'.find? "/item/new" = some ("new", []) ∧ t'.find? "/item/7" = some ("item", [("id", "7")]) ∧
        t'.find? "/item/7/8" = some ("missing", []) := by
  intro entries t
  have h : Table.ofEntries entries = .ok t := by rfl
  have hcatch : t.hasCatchAll = true := by decide
  have hne : entries ≠ [] := by decide
  have hpattern : Pattern.parse "/item/new" = .ok (.fixed "/item/new") := by rfl
  obtain ⟨-, -, -, -, hinsert⟩ := first_match_decides h
  obtain ⟨t', ht', hfind⟩ := hinsert [] entries "/item/new" "new" _ rfl hpattern rfl fun _ => hne
  refine ⟨h, hcatch, hne, by decide, t', ht', ?_, ?_, ?_⟩
  · exact (hfind "/item/new").1 [] (by decide) (by simp)
  · rw [(hfind "/item/7").2 (.inl (by decide))]
    decide
  · rw [(hfind "/item/7/8").2 (.inl (by decide))]
    decide

end ConsoleShell
