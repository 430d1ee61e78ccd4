import ConsoleShell.Proofs.FirstMatch
import ConsoleShell.Proofs.PatternGrammar

/-!
# What a table is refused for

A table is refused for the first of its texts that is no pattern, if there is one; then for a second catch-all; and then
for a catch-all that has something behind it. An entry is a catch-all by its text alone, so all this can be said of the
texts.

* `readRoutes_eq_error_iff`: entries are refused for the leftmost one that cannot be read.
* `ofEntries_of_readable`: what becomes of entries that can all be read.
* `table_validated`: which entries make a table, which table it is, and what all others are refused for.
-/

namespace ConsoleShell

variable {V : Type}

/-- Every text is a pattern. -/
def Readable (texts : List String) : Prop := ∀ text ∈ texts, ∃ p, Pattern.parse text = .ok p

instance (texts : List String) : Decidable (Readable texts) :=
  decidable_of_iff (∀ text ∈ texts, (Pattern.parse text).isOk = true) <| forall₂_congr fun text _ => by
    cases Pattern.parse text <;> simp [Except.isOk, Except.toBool]

private theorem readRoutes_of_unreadable {before : List (String × V)} (hbefore : Readable (before.map (·.1)))
    {text : String} {cause : PatternError} (hp : Pattern.parse text = .error cause) (view : V)
    (after : List (String × V)) :
    readRoutes (before ++ (text, view) :: after) = .error (.invalidPattern text cause) := by
  induction before with
  | nil => rw [List.nil_append, readRoutes, hp]
  | cons e before ih =>
    obtain ⟨p, he⟩ := hbefore e.1 (by simp)
    have hrest : Readable (before.map (·.1)) := fun other hother => hbefore other (List.mem_cons_of_mem _ hother)
    rw [List.cons_append, readRoutes, he, ih hrest]
    rfl

private theorem exists_unreadable_of_readRoutes {entries : List (String × V)} {e : TableError}
    (h : readRoutes entries = .error e) :
    ∃ before text view after cause, entries = before ++ (text, view) :: after ∧ Readable (before.map (·.1)) ∧
      Pattern.parse text = .error cause ∧ e = .invalidPattern text cause := by
  induction entries with
  | nil => simp [readRoutes] at h
  | cons first entries ih =>
    obtain ⟨text, view⟩ := first
    rw [readRoutes] at h
    cases hp : Pattern.parse text with
    | error cause =>
      simp only [hp] at h
      exact ⟨[], text, view, entries, cause, rfl, by simp [Readable], hp, (Except.error.inj h).symm⟩
    | ok p =>
      simp only [hp] at h
      obtain ⟨before, text', view', after, cause, rfl, hbefore, hp', he⟩ := ih (except_map_eq_error.1 h)
      refine ⟨(text, view) :: before, text', view', after, cause, rfl, ?_, hp', he⟩
      intro other hother
      rcases List.mem_cons.1 hother with rfl | hother
      · exact ⟨p, hp⟩
      · exact hbefore other hother

theorem readRoutes_eq_error_iff {entries : List (String × V)} {text : String} {cause : PatternError} :
    readRoutes entries = .error (.invalidPattern text cause) ↔ ∃ before after,
      entries.map (·.1) = before ++ text :: after ∧ Readable before ∧ Pattern.parse text = .error cause := by
  constructor
  · intro h
    obtain ⟨before, text', view, after, cause', rfl, hbefore, hp, he⟩ := exists_unreadable_of_readRoutes h
    obtain ⟨rfl, rfl⟩ := TableError.invalidPattern.inj he
    exact ⟨before.map (·.1), after.map (·.1), by simp, hbefore, hp⟩
  · rintro ⟨before, after, htexts, hbefore, hp⟩
    obtain ⟨before', rest, rfl, rfl, hrest⟩ := List.map_eq_append_iff.1 htexts
    obtain ⟨⟨text', view⟩, after', rfl, rfl, -⟩ := List.map_eq_cons_iff.1 hrest
    exact readRoutes_of_unreadable hbefore hp view after'

private theorem exists_readRoutes_iff {entries : List (String × V)} :
    (∃ routes, readRoutes entries = .ok routes) ↔ Readable (entries.map (·.1)) := by
  constructor
  · rintro ⟨routes, hroutes⟩ text htext
    obtain ⟨rfl, hparse⟩ := readRoutes_eq_ok_iff.1 hroutes
    rw [List.map_map] at htext
    obtain ⟨r, hr, rfl⟩ := List.mem_map.1 htext
    exact ⟨r.pattern, hparse r hr⟩
  · exact fun h => exists_readRoutes fun e he => h e.1 (List.mem_map_of_mem he)

private theorem isCatchAll_eq {r : Route V} (h : Pattern.parse r.text = .ok r.pattern) :
    r.isCatchAll = (r.text == "*") := by
  rw [Bool.eq_iff_iff, beq_iff_eq]
  exact isCatchAll_iff_of_parse h

private theorem countP_isCatchAll {routes : List (Route V)} (h : ∀ r ∈ routes, Pattern.parse r.text = .ok r.pattern) :
    routes.countP Route.isCatchAll = (routes.map Route.text).count "*" := by
  rw [List.count, List.countP_map]
  exact List.countP_congr fun r hr => by rw [isCatchAll_eq (h r hr)]; rfl

private theorem findIdx_isCatchAll {routes : List (Route V)} (h : ∀ r ∈ routes, Pattern.parse r.text = .ok r.pattern) :
    routes.findIdx Route.isCatchAll = (routes.map Route.text).idxOf "*" := by
  induction routes with
  | nil => rfl
  | cons r routes ih =>
    rw [List.map_cons, List.findIdx_cons, List.idxOf_cons, isCatchAll_eq (h r (by simp)),
      ih fun q hq => h q (by simp [hq])]

/-- What stands in a list once stands where it is found. -/
private theorem idxOf_of_count_eq_one {α : Type} [DecidableEq α] {a : α} {l : List α} (h : l.count a = 1) {i : Nat}
    (hi : l[i]? = some a) : l.idxOf a = i := by
  induction l generalizing i with
  | nil => simp at hi
  | cons b l ih =>
    by_cases hb : b = a
    · subst hb
      rw [List.count_cons_self, Nat.add_eq_right, List.count_eq_zero] at h
      cases i with
      | zero => exact List.idxOf_cons_self
      | succ i => exact absurd (List.mem_of_getElem? (l := l) hi) h
    · rw [List.count_cons_of_ne hb] at h
      cases i with
      | zero => exact absurd (Option.some.inj hi) hb
      | succ i => rw [List.idxOf_cons, beq_false_of_ne hb, ih h hi]; rfl

private theorem idxOf_add_one_of_getLast? {α : Type} [DecidableEq α] {a : α} {l : List α} (h : l.count a = 1)
    (hlast : l.getLast? = some a) : l.idxOf a + 1 = l.length := by
  have hpos : 0 < l.length := List.length_pos_of_mem (List.mem_of_getLast? hlast)
  rw [List.getLast?_eq_getElem?] at hlast
  have := idxOf_of_count_eq_one h hlast
  omega

/-! ### All that can become of entries -/

/-- Of entries that can all be read, the places of the catch-alls decide. -/
theorem ofEntries_of_readable {entries : List (String × V)} (h : Readable (entries.map (·.1))) :
    ∃ routes, Table.ofEntries entries =
      if 1 < (entries.map (·.1)).count "*" then .error .duplicateCatchAll
      else if (entries.map (·.1)).idxOf "*" + 1 < entries.length then
        .error (.misplacedCatchAll ((entries.map (·.1)).idxOf "*") entries.length)
      else .ok ⟨routes⟩ := by
  obtain ⟨routes, hroutes⟩ := exists_readRoutes_iff.2 h
  refine ⟨routes, ?_⟩
  obtain ⟨rfl, hparse⟩ := readRoutes_eq_ok_iff.1 hroutes
  have htexts : (routes.map fun r => (r.text, r.view)).map (·.1) = routes.map Route.text := by
    rw [List.map_map]
    rfl
  rw [Table.ofEntries, hroutes, htexts, List.length_map]
  simp only [countP_isCatchAll hparse, findIdx_isCatchAll hparse]

/-- All that can become of entries, with what makes it so. -/
private theorem cases_of_ofEntries (entries : List (String × V)) :
    let texts := entries.map (·.1)
    (¬ Readable texts ∧ ∃ text cause, Table.ofEntries entries = .error (.invalidPattern text cause)) ∨
    (Readable texts ∧ 1 < texts.count "*" ∧ Table.ofEntries entries = .error .duplicateCatchAll) ∨
    (Readable texts ∧ texts.count "*" = 1 ∧ texts.idxOf "*" + 1 < entries.length ∧
      Table.ofEntries entries = .error (.misplacedCatchAll (texts.idxOf "*") entries.length)) ∨
    (Readable texts ∧ texts.count "*" ≤ 1 ∧ ("*" ∈ texts → texts.getLast? = some "*") ∧
      ∃ t, Table.ofEntries entries = .ok t) := by
  intro texts
  have hlength : texts.length = entries.length := List.length_map _
  by_cases hread : Readable texts
  · obtain ⟨routes, hroutes⟩ := ofEntries_of_readable hread
    by_cases hcount : 1 < texts.count "*"
    · rw [if_pos hcount] at hroutes
      exact .inr (.inl ⟨hread, hcount, hroutes⟩)
    · rw [if_neg hcount] at hroutes
      by_cases hidx : texts.idxOf "*" + 1 < entries.length
      · rw [if_pos hidx] at hroutes
        have hmem : 0 < texts.count "*" := List.count_pos_iff.2 (List.idxOf_lt_length_iff.1 (by omega))
        exact .inr (.inr (.inl ⟨hread, by omega, hidx, hroutes⟩))
      · rw [if_neg hidx] at hroutes
        refine .inr (.inr (.inr ⟨hread, by omega, ?_, _, hroutes⟩))
        intro hmem
        have hlt := List.idxOf_lt_length_of_mem hmem
        rw [List.getLast?_eq_getElem?, show texts.length - 1 = texts.idxOf "*" by omega,
          List.getElem?_eq_getElem hlt, List.getElem_idxOf]
  · left
    refine ⟨hread, ?_⟩
    cases hroutes : readRoutes entries with
    | ok routes => exact absurd (exists_readRoutes_iff.1 ⟨routes, hroutes⟩) hread
    | error e =>
      obtain ⟨-, text, -, -, cause, -, -, -, rfl⟩ := exists_unreadable_of_readRoutes hroutes
      exact ⟨text, cause, by rw [Table.ofEntries, hroutes]⟩

variable {entries : List (String × V)}

/-- Of several faults, a text that cannot be read counts first. -/
private theorem ofEntries_eq_invalidPattern_iff {text : String} {cause : PatternError} :
    Table.ofEntries entries = .error (.invalidPattern text cause) ↔ ∃ before after,
      entries.map (·.1) = before ++ text :: after ∧ Readable before ∧ Pattern.parse text = .error cause := by
  rw [← readRoutes_eq_error_iff]
  cases hroutes : readRoutes entries with
  | error e => simp [Table.ofEntries, hroutes]
  | ok routes =>
    have hread := exists_readRoutes_iff.1 ⟨routes, hroutes⟩
    rcases cases_of_ofEntries entries with ⟨hno, -⟩ | ⟨-, -, h⟩ | ⟨-, -, -, h⟩ | ⟨-, -, -, t, h⟩
    · exact absurd hread hno
    · simp [h]
    · simp [h]
    · simp [h]

theorem exists_ofEntries_iff_last : (∃ t, Table.ofEntries entries = .ok t) ↔
    Readable (entries.map (·.1)) ∧ (entries.map (·.1)).count "*" ≤ 1 ∧
      ("*" ∈ entries.map (·.1) → (entries.map (·.1)).getLast? = some "*") := by
  rcases cases_of_ofEntries entries with
    ⟨hno, text, cause, h⟩ | ⟨-, hcount, h⟩ | ⟨-, hcount, hidx, h⟩ | ⟨hread, hcount, hlast, h⟩
  · simp [h, hno]
  · simp only [h, reduceCtorEq, exists_false, false_iff]
    rintro ⟨-, hle, -⟩
    omega
  · simp only [h, reduceCtorEq, exists_false, false_iff]
    rintro ⟨-, -, hlast⟩
    have hmem : "*" ∈ entries.map (·.1) := List.count_pos_iff.1 (by omega)
    have hend := idxOf_add_one_of_getLast? hcount (hlast hmem)
    rw [List.length_map] at hend
    omega
  · exact ⟨fun _ => ⟨hread, hcount, hlast⟩, fun _ => h⟩

private theorem ofEntries_eq_duplicateCatchAll_iff : Table.ofEntries entries = .error .duplicateCatchAll ↔
    Readable (entries.map (·.1)) ∧ 2 ≤ (entries.map (·.1)).count "*" := by
  rcases cases_of_ofEntries entries with
    ⟨hno, text, cause, h⟩ | ⟨hread, hcount, h⟩ | ⟨-, hcount, -, h⟩ | ⟨-, hcount, -, t, h⟩
  · simp [h, hno]
  · simp [h, hread, Nat.succ_le_iff, hcount]
  · simp [h, hcount]
  · simp only [h, reduceCtorEq, false_iff]
    omega

private theorem ofEntries_eq_misplacedCatchAll_iff {index len : Nat} :
    Table.ofEntries entries = .error (.misplacedCatchAll index len) ↔
      Readable (entries.map (·.1)) ∧ (entries.map (·.1)).count "*" = 1 ∧ (entries.map (·.1))[index]? = some "*" ∧
        len = entries.length ∧ index + 1 < len := by
  rcases cases_of_ofEntries entries with
    ⟨hno, text, cause, h⟩ | ⟨-, hcount, h⟩ | ⟨hread, hcount, hidx, h⟩ | ⟨-, -, hlast, t, h⟩
  · simp [h, hno]
  · simp only [h, Except.error.injEq, reduceCtorEq, false_iff]
    omega
  · simp only [h, Except.error.injEq, TableError.misplacedCatchAll.injEq]
    constructor
    · rintro ⟨rfl, rfl⟩
      have hlt : (entries.map (·.1)).idxOf "*" < (entries.map (·.1)).length := by
        rw [List.length_map]
        omega
      exact ⟨hread, hcount, by rw [List.getElem?_eq_getElem hlt, List.getElem_idxOf], rfl, hidx⟩
    · rintro ⟨-, -, hindex, rfl, -⟩
      exact ⟨idxOf_of_count_eq_one hcount hindex, rfl⟩
  · simp only [h, reduceCtorEq, false_iff]
    rintro ⟨-, hcount, hindex, rfl, hlt⟩
    -- the only catch-all is the last entry, and nothing stands behind that
    have hend := idxOf_add_one_of_getLast? hcount (hlast (List.mem_of_getElem? hindex))
    rw [idxOf_of_count_eq_one hcount hindex, List.length_map] at hend
    omega

/-- Entries make a table if every text is a pattern, at most one is `*`, and that one is the last; the table has just
these entries, and a catch-all if `*` is among them. All others are refused: for the leftmost text that is no pattern,
if there is one, with the cause; otherwise for a second `*`, wherever it stands; otherwise for the only one, with its
place. -/
theorem table_validated (entries : List (String × V)) :
    let texts := entries.map (·.1)
    ((∃ t, Table.ofEntries entries = .ok t) ↔
      Readable texts ∧ texts.count "*" ≤ 1 ∧ ("*" ∈ texts → texts.getLast? = some "*")) ∧
    (∀ t, Table.ofEntries entries = .ok t →
      t.size = entries.length ∧ t.entries = entries ∧ (t.hasCatchAll = true ↔ "*" ∈ texts)) ∧
    (∀ text cause, Table.ofEntries entries = .error (.invalidPattern text cause) ↔
      ∃ before after, texts = before ++ text :: after ∧ Readable before ∧ Pattern.parse text = .error cause) ∧
    (Table.ofEntries entries = .error .duplicateCatchAll ↔ Readable texts ∧ 2 ≤ texts.count "*") ∧
    (∀ index len, Table.ofEntries entries = .error (.misplacedCatchAll index len) ↔
      Readable texts ∧ texts.count "*" = 1 ∧ texts[index]? = some "*" ∧ len = entries.length ∧ index + 1 < len) := by
  refine ⟨exists_ofEntries_iff_last, ?_, fun _ _ => ofEntries_eq_invalidPattern_iff, ofEntries_eq_duplicateCatchAll_iff,
    fun _ _ => ofEntries_eq_misplacedCatchAll_iff⟩
  intro t ht
  obtain ⟨hentries, -⟩ := ofEntries_eq_ok_iff.1 ht
  obtain ⟨-, -, hlast⟩ := exists_ofEntries_iff_last.1 ⟨t, ht⟩
  refine ⟨?_, hentries, ?_⟩
  · rw [← hentries, Table.entries, List.length_map, Table.size]
  · rw [hasCatchAll_iff ht]
    exact ⟨List.mem_of_getLast?, hlast⟩

/-- The same entries, with less and less that is wrong with them. -/
theorem refused_in_turn :
    let table (texts : List String) := Table.ofEntries (texts.map fun text => (text, text.length))
    table ["*", "/user/:id", "/:", "users", "*"] = .error (.invalidPattern "/:" .unnamedParam) ∧
      table ["*", "/user/:id", "*"] = .error .duplicateCatchAll ∧
      table ["/users", "*", "/user/:id"] = .error (.misplacedCatchAll 1 3) ∧
      ∃ t, table ["/users", "/user/:id", "*"] = .ok t ∧
        t.entries = [("/users", 6), ("/user/:id", 9), ("*", 1)] ∧ t.hasCatchAll = true := by
  intro table
  refine ⟨?_, ?_, ?_, ?_⟩
  · obtain ⟨-, -, hinvalid, -, -⟩ := table_validated (["*", "/user/:id", "/:", "users", "*"].map fun t => (t, t.length))
    exact (hinvalid "/:" .unnamedParam).2 ⟨["*", "/user/:id"], ["users", "*"], rfl, by decide, rfl⟩
  · obtain ⟨-, -, -, hduplicate, -⟩ := table_validated (["*", "/user/:id", "*"].map fun t => (t, t.length))
    exact hduplicate.2 ⟨by decide, by decide⟩
  · obtain ⟨-, -, -, -, hmisplaced⟩ := table_validated (["/users", "*", "/user/:id"].map fun t => (t, t.length))
    exact (hmisplaced 1 3).2 ⟨by decide, by decide, rfl, rfl, by decide⟩
  · obtain ⟨hok, htable, -⟩ := table_validated (["/users", "/user/:id", "*"].map fun t => (t, t.length))
    obtain ⟨t, ht⟩ := hok.2 ⟨by decide, by decide, fun _ => rfl⟩
    obtain ⟨-, hentries, hcatch⟩ := htable t ht
    exact ⟨t, ht, hentries, hcatch.2 (by decide)⟩

end ConsoleShell
