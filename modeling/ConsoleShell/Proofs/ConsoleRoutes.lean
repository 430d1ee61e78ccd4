import ConsoleShell.Guard
import ConsoleShell.Proofs.RouteOrder
import ConsoleShell.Proofs.TableFaults

/-!
# What a console shows under a path

The routes of a console are apart, so any order of them serves the same views. `Variant.Reaches` says which: the view of a
fixed path under that path alone, and the view of a single item under the path of its collection and one more piece, which
is the identifier. Every other path leads to `notFound`.

* `apart_listed`: no path matches two of the routes.
* `firstMatch?_eq_some_iff_reaches`: what the routes of a console find, in whatever order they stand.
* `served_in_any_order`: what is shown under a path, which paths are open to visitors, and that the login view ends every
  redirect.
-/

namespace ConsoleShell

namespace Variant

/-- The routes in front of the catch-all. -/
def listed (v : Variant) : List (String × View) := v.entries.takeWhile fun e => e.1 ≠ "*"

/-- The collections whose items have a view of their own. -/
def collections : Variant → List (String × View)
  | tenant => []
  | admin => [("/org", .org), ("/user", .user), ("/thing", .thing)]

private theorem table_eq (v : Variant) : v.table = Table.ofEntries (v.listed ++ [("*", .notFound)]) := by
  have hentries : v.entries = v.listed ++ [("*", .notFound)] := by cases v <;> decide
  rw [table, hentries]

/-- The path is that of a view, or of an item whose identifier is its last piece. -/
inductive Reaches (v : Variant) (path : String) : View → Params → Prop
  | page {view : View} (listed : (path, view) ∈ v.listed) (fixed : paramNames path = []) : Reaches v path view []
  | item {base x : String} {view : View} (collection : (base, view) ∈ v.collections) (nonempty : x ≠ "")
      (piece : '/' ∉ x.toList) (eq : path = base ++ "/" ++ x) : Reaches v path view [("id", x)]

end Variant

variable {v : Variant}

private theorem readable_listed (v : Variant) : Readable (v.listed.map (·.1)) := by
  cases v <;> decide

private theorem exists_parse_listed {e : String × View} (he : e ∈ v.listed) : ∃ p, Pattern.parse e.1 = .ok p :=
  readable_listed v e.1 (List.mem_map_of_mem he)

private theorem listed_ne_star {e : String × View} (he : e ∈ v.listed) : e.1 ≠ "*" := by
  revert e
  cases v <;> decide

/-- A route with a parameter is that of the items of a collection. -/
private theorem fixed_or_item_of_listed {e : String × View} (he : e ∈ v.listed) :
    paramNames e.1 = [] ∨ ∃ c ∈ v.collections, e = (c.1 ++ "/" ++ (":" ++ "id"), c.2) := by
  revert e
  cases v <;> decide

private theorem item_listed {c : String × View} (hc : c ∈ v.collections) :
    (c.1 ++ "/" ++ (":" ++ "id"), c.2) ∈ v.listed ∧ paramNames c.1 = [] := by
  revert c
  cases v <;> decide

private theorem isPublic_of_collection {c : String × View} (hc : c ∈ v.collections) : c.2.isPublic = false := by
  revert c
  cases v <;> decide

private theorem isPublic_of_listed {e : String × View} (he : e ∈ v.listed) :
    e.2.isPublic = true ↔ e.1 = "/login" ∨ e.1 = "/signout" := by
  revert e
  cases v <;> decide

theorem apart_listed (v : Variant) : v.listed.Pairwise fun d e => Apart d.1 e.1 := by
  have hclash : v.listed.Pairwise fun d e => clashing (segmentsOf d.1) (segmentsOf e.1) = true := by
    cases v <;> decide
  refine List.Pairwise.imp_of_mem (fun hd he h => ?_) hclash
  exact apart_of_clashing (listed_ne_star hd) (listed_ne_star he) h

private theorem reaches_iff {path : String} {view : View} {m : Params} :
    v.Reaches path view m ↔ ∃ e ∈ v.listed, e.2 = view ∧ textCapture? e.1 path = some m := by
  constructor
  · rintro (⟨hlisted, hfixed⟩ | ⟨hc, hx, hslash, rfl⟩)
    · obtain ⟨p, hp⟩ := exists_parse_listed hlisted
      exact ⟨_, hlisted, rfl, (textCapture?_of_fixed hp (listed_ne_star hlisted) hfixed).2 ⟨rfl, rfl⟩⟩
    · obtain ⟨hlisted, hfixed⟩ := item_listed hc
      obtain ⟨p, hp⟩ := exists_parse_listed hlisted
      exact ⟨_, hlisted, rfl, (textCapture?_of_item hp (listed_ne_star hlisted) hfixed (by decide)).2
        ⟨_, hx, hslash, rfl, rfl⟩⟩
  · rintro ⟨e, he, rfl, hm⟩
    obtain ⟨p, hp⟩ := exists_parse_listed he
    rcases fixed_or_item_of_listed he with hfixed | ⟨c, hc, rfl⟩
    · obtain ⟨rfl, rfl⟩ := (textCapture?_of_fixed hp (listed_ne_star he) hfixed).1 hm
      exact .page he hfixed
    · obtain ⟨x, hx, hslash, rfl, rfl⟩ :=
        (textCapture?_of_item hp (listed_ne_star he) (item_listed hc).2 (by decide)).1 hm
      exact .item hc hx hslash rfl

section Ordered

variable {routes : List (String × View)} (h : routes.Perm v.listed)

include h

theorem firstMatch?_eq_some_iff_reaches {path : String} {view : View} {m : Params} :
    firstMatch? routes path = some (view, m) ↔ v.Reaches path view m := by
  have hapart : routes.Pairwise fun d e => Apart d.1 e.1 := (h.pairwise_iff Apart.symm).2 (apart_listed v)
  rw [firstMatch?_eq_some_iff_of_apart hapart, reaches_iff]
  simp only [h.mem_iff]

private theorem exists_ofEntries_routes : ∃ t, Table.ofEntries (routes ++ [("*", .notFound)]) = .ok t := by
  have htexts : (routes ++ [("*", View.notFound)]).map (·.1) = routes.map (·.1) ++ ["*"] := by simp
  have hstar : "*" ∉ routes.map (·.1) := by
    intro hmem
    obtain ⟨e, he, htext⟩ := List.mem_map.1 hmem
    exact listed_ne_star (h.mem_iff.1 he) htext
  rw [exists_ofEntries_iff_last, htexts]
  refine ⟨?_, ?_, fun _ => List.getLast?_concat⟩
  · intro text htext
    rcases List.mem_append.1 htext with htext | htext
    · exact readable_listed v text ((h.map _).mem_iff.1 htext)
    · exact ⟨.catchAll, by rw [List.mem_singleton.1 htext]; rfl⟩
  · rw [List.count_append, List.count_eq_zero.2 hstar]
    decide

/-- Behind the routes, the catch-all takes the paths that are left. -/
private theorem resolveView_eq {t : Table View} (ht : Table.ofEntries (routes ++ [("*", .notFound)]) = .ok t)
    (path : String) : (∀ view m, v.Reaches path view m → resolveView t path = (view, m)) ∧
      ((∀ view m, ¬ v.Reaches path view m) → resolveView t path = (.notFound, [])) := by
  have hlast : firstMatch? [("*", View.notFound)] path = some (.notFound, []) := by
    rw [firstMatch?, List.findSome?_cons, textCapture?_star]
    rfl
  rw [resolveView, find?_eq_firstMatch? ht, firstMatch?_append, hlast]
  constructor
  · intro view m hreaches
    rw [(firstMatch?_eq_some_iff_reaches h).2 hreaches]
    rfl
  · intro hno
    cases hfound : firstMatch? routes path with
    | none => rfl
    | some found => exact absurd ((firstMatch?_eq_some_iff_reaches h).1 hfound) (hno _ _)

end Ordered

private theorem reaches_login (v : Variant) : v.Reaches loginPath .login [] :=
  .page (by cases v <;> decide) (by decide)

private theorem reaches_signout (v : Variant) : v.Reaches "/signout" .signout [] :=
  .page (by cases v <;> decide) (by decide)

/-- A path leads to one view. -/
private theorem Variant.Reaches.unique {path : String} {view view' : View} {m m' : Params} (h : v.Reaches path view m)
    (h' : v.Reaches path view' m') : view = view' ∧ m = m' := by
  have hsame := (firstMatch?_eq_some_iff_reaches (.refl _)).2 h
  rw [(firstMatch?_eq_some_iff_reaches (.refl _)).2 h'] at hsame
  exact Prod.mk.inj (Option.some.inj hsame.symm)

private theorem isPublic_of_reaches {path : String} {view : View} {m : Params} (h : v.Reaches path view m) :
    view.isPublic = true ↔ path = "/login" ∨ path = "/signout" := by
  cases h with
  | page hlisted => exact isPublic_of_listed hlisted
  | item hc hx hslash heq =>
    have hitem := Variant.Reaches.item hc hx hslash heq
    rw [isPublic_of_collection hc]
    refine ⟨nofun, ?_⟩
    -- these two paths have no parameters
    rintro (rfl | rfl)
    · cases (hitem.unique (reaches_login v)).2
    · cases (hitem.unique (reaches_signout v)).2

/-- In whatever order they stand before the catch-all, the routes of a console make a table. Under the path of a view it
shows that view, without parameters; under the path of a collection with one more piece, the view of the item with this
piece as its identifier; and under every other path, the view for what is not found. Just the login view, the signout view
and the latter are open to visitors, so that a redirect to the login view is not followed by another. -/
theorem served_in_any_order {routes : List (String × View)} (h : routes.Perm v.listed) :
    v.table = Table.ofEntries (v.listed ++ [("*", .notFound)]) ∧
      ∃ t, Table.ofEntries (routes ++ [("*", .notFound)]) = .ok t ∧
      (∀ path view m, v.Reaches path view m → resolveView t path = (view, m)) ∧
      (∀ path, (∀ view m, ¬ v.Reaches path view m) → resolveView t path = (.notFound, [])) ∧
      (∀ path, (resolveView t path).1.isPublic = true ↔
        path = "/login" ∨ path = "/signout" ∨ ∀ view m, ¬ v.Reaches path view m) ∧
      ∀ path state, shouldRedirect (resolveView t path).1 state = true →
        resolveView t loginPath = (.login, []) ∧ ∀ state', shouldRedirect (resolveView t loginPath).1 state' = false := by
  obtain ⟨t, ht⟩ := exists_ofEntries_routes h
  have hshown (path : String) := (resolveView_eq h ht path).1
  have hmissing (path : String) := (resolveView_eq h ht path).2
  have hlogin := hshown loginPath _ _ (reaches_login v)
  refine ⟨v.table_eq, t, ht, hshown, hmissing, ?_, ?_⟩
  · intro path
    by_cases hreaches : ∃ view m, v.Reaches path view m
    · obtain ⟨view, m, hreaches⟩ := hreaches
      have hno : ¬ ∀ view m, ¬ v.Reaches path view m := fun hall => hall view m hreaches
      rw [hshown path view m hreaches]
      simp only [hno, or_false]
      exact isPublic_of_reaches hreaches
    · have hno : ∀ view m, ¬ v.Reaches path view m := fun view m hr => hreaches ⟨view, m, hr⟩
      rw [hmissing path hno]
      exact ⟨fun _ => .inr (.inr hno), fun _ => rfl⟩
  · intro path state _
    refine ⟨hlogin, fun state' => ?_⟩
    rw [hlogin]
    exact shouldRedirect_eq_false_of_public rfl state'

/-- The routes of the operators' console in reverse, where single items come before their collections. -/
theorem served_in_reverse :
    Variant.admin.listed.reverse.Perm Variant.admin.listed ∧
      ∃ t, Table.ofEntries (Variant.admin.listed.reverse ++ [("*", .notFound)]) = .ok t ∧
        resolveView t "/orgs" = (.orgs, []) ∧ resolveView t "/org/:id" = (.org, [("id", ":id")]) ∧
        resolveView t "/org/" = (.notFound, []) ∧ (resolveView t "/org/").1.isPublic = true := by
  have h : Variant.admin.listed.reverse.Perm Variant.admin.listed := List.reverse_perm _
  obtain ⟨-, t, ht, hshown, hmissing, hpublic, -⟩ := served_in_any_order h
  have hnone : ∀ e ∈ Variant.admin.listed, textCapture? e.1 "/org/" = none := by decide
  have hno : ∀ view m, ¬ Variant.admin.Reaches "/org/" view m := by
    intro view m hreaches
    obtain ⟨e, he, -, hm⟩ := reaches_iff.1 hreaches
    rw [hnone e he] at hm
    cases hm
  refine ⟨h, t, ht, hshown _ _ _ (.page (by decide) (by decide)), ?_, hmissing _ hno, ?_⟩
  · exact hshown _ _ _ (.item (by decide) (by decide) (by decide) (by decide : "/org/:id" = "/org" ++ "/" ++ ":id"))
  · exact (hpublic _).2 (.inr (.inr hno))

end ConsoleShell
