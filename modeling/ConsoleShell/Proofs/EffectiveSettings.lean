import ConsoleShell.Settings

/-!
# Settings from what counts

Settings are looked up under four names, and of the value under a name only what is left after trimming counts. Each
field depends on the value under its own name alone, the variant is the only one that can be refused, and settings that
are looked up again are the same.

* `ofLookup_eq_ok_iff`, `ofLookup_eq_error_iff`: which settings a lookup gives, and what it is refused for.
* `settings_of_counted`: the same under the names as they are written, with what follows for lookups that agree and for
  the settings themselves.
-/

namespace ConsoleShell

open Text

/-- The texts differ at most in the case of ASCII letters. -/
def SameLetters (a b : String) : Prop := a.toList.map Char.toLower = b.toList.map Char.toLower

instance (a b : String) : Decidable (SameLetters a b) :=
  inferInstanceAs (Decidable (a.toList.map Char.toLower = b.toList.map Char.toLower))

private theorem SameLetters.bare {a b : String} (h : SameLetters a b) (hb : Bare b) : Bare a where
  head c hc := by
    have hlower := congrArg List.head? h
    rw [List.head?_map, List.head?_map, hc, Option.map_some, eq_comm, Option.map_eq_some_iff] at hlower
    obtain ⟨d, hd, hdc⟩ := hlower
    rw [← isBlank_toLower, ← hdc, isBlank_toLower, hb.head d hd]
  last c hc := by
    have hlower := congrArg List.getLast? h
    rw [List.getLast?_map, List.getLast?_map, hc, Option.map_some, eq_comm, Option.map_eq_some_iff] at hlower
    obtain ⟨d, hd, hdc⟩ := hlower
    rw [← isBlank_toLower, ← hdc, isBlank_toLower, hb.last d hd]

namespace Variant

private theorem bare_name (v : Variant) : Bare v.name := by
  cases v <;> decide

/-- The name of a variant in any letter case, with blanks around it, is read as that variant. -/
private theorem ofName?_eq_some_iff {text : String} {v : Variant} :
    ofName? text = some v ↔ SameLetters (trim text) v.name := by
  have hlower : v.name.toList.map Char.toLower = v.name.toList := by cases v <;> decide
  have hname (lower : String) :
      (if lower = "tenant" then some tenant else if lower = "admin" then some admin else none) = some v ↔
        lower = v.name := by
    by_cases ht : lower = "tenant"
    · subst ht
      cases v <;> decide
    · by_cases ha : lower = "admin"
      · subst ha
        cases v <;> decide
      · cases v <;> simp [ht, ha, Variant.name]
  have hletters : SameLetters (trim text) v.name ↔
      String.ofList ((trim text).toList.map Char.toLower) = v.name := by
    rw [SameLetters, hlower, ← String.toList_inj, String.toList_ofList]
  rw [hletters, ← hname, ofName?]

end Variant

namespace Settings

/-- The value under a name as it counts: trimmed, and empty if it is blank or not there. -/
def counted (lookup : String → Option String) (name : String) : String := trim ((lookup name).getD "")

/-- A value that counts, or the default. -/
def orDefault (value default : String) : String := if value = "" then default else value

/-- The text names the variant; an empty one names the first. -/
def Names (text : String) : Variant → Prop
  | .tenant => text = "" ∨ SameLetters text "tenant"
  | .admin => SameLetters text "admin"

instance (text : String) : DecidablePred (Names text)
  | .tenant => inferInstanceAs (Decidable (text = "" ∨ SameLetters text "tenant"))
  | .admin => inferInstanceAs (Decidable (SameLetters text "admin"))

variable {lookup : String → Option String}

private theorem effective?_eq (name : String) :
    effective? (lookup name) = if counted lookup name = "" then none else some (counted lookup name) := by
  rw [effective?, counted]
  cases lookup name with
  | none => rfl
  | some value => by_cases h : trim value = "" <;> simp [h]

private theorem getD_effective? (name default : String) :
    (effective? (lookup name)).getD default = orDefault (counted lookup name) default := by
  rw [effective?_eq, orDefault]
  split <;> rfl

@[simp] theorem trim_counted (name : String) : trim (counted lookup name) = counted lookup name := trim_trim _

/-! ### What a lookup gives -/

/-- The settings of a variant, with the values that count. -/
def assembled (lookup : String → Option String) (v : Variant) : Settings where
  graphqlEndpoint := orDefault (counted lookup "PIOT_GRAPHQL_ENDPOINT") "http://localhost:9096/query"
  loginEndpoint := orDefault (counted lookup "PIOT_LOGIN_ENDPOINT") "http://localhost:9096/login"
  tokenKey := orDefault (counted lookup "PIOT_TOKEN_KEY") "token"
  variant := v

private theorem ofLookup_eq (lookup : String → Option String) : ofLookup lookup =
    if counted lookup variantName = "" then .ok (assembled lookup .tenant)
    else match Variant.ofName? (counted lookup variantName) with
      | some v => .ok (assembled lookup v)
      | none => .error (.invalidVariant (counted lookup variantName)) := by
  rw [ofLookup]
  simp only [getD_effective?]
  rw [effective?_eq]
  by_cases hblank : counted lookup variantName = ""
  · rw [if_pos hblank, if_pos hblank]
    rfl
  · rw [if_neg hblank, if_neg hblank]
    dsimp only
    cases Variant.ofName? (counted lookup variantName) <;> rfl

private theorem not_sameLetters_empty (v : Variant) : ¬ SameLetters "" v.name := by
  cases v <;> decide

private theorem names_iff {text : String} (h : text ≠ "") {v : Variant} : Names text v ↔ SameLetters text v.name := by
  cases v with
  | tenant => exact or_iff_right h
  | admin => exact Iff.rfl

/-- A text names one variant at most. -/
private theorem Names.unique {text : String} {v w : Variant} (hv : Names text v) (hw : Names text w) : v = w := by
  by_cases h : text = ""
  · subst h
    have htenant : ∀ u, Names "" u → u = .tenant := by
      rintro (_ | _) hu
      · rfl
      · exact absurd hu (not_sameLetters_empty .admin)
    rw [htenant v hv, htenant w hw]
  · rw [names_iff h] at hv hw
    have hsame : SameLetters v.name w.name := hv.symm.trans hw
    revert hsame
    cases v <;> cases w <;> decide

/-- A lookup gives settings if what counts of the variant names one, and is refused otherwise. -/
private theorem cases_of_ofLookup (lookup : String → Option String) :
    (∃ v, Names (counted lookup variantName) v ∧ ofLookup lookup = .ok (assembled lookup v)) ∨
      (∀ v, ¬ Names (counted lookup variantName) v) ∧
        ofLookup lookup = .error (.invalidVariant (counted lookup variantName)) := by
  rw [ofLookup_eq]
  by_cases hblank : counted lookup variantName = ""
  · left
    rw [if_pos hblank]
    exact ⟨.tenant, .inl hblank, rfl⟩
  · rw [if_neg hblank]
    have hnames (v : Variant) : Variant.ofName? (counted lookup variantName) = some v ↔
        Names (counted lookup variantName) v := by
      rw [Variant.ofName?_eq_some_iff, trim_counted, names_iff hblank]
    cases hname : Variant.ofName? (counted lookup variantName) with
    | some v => exact .inl ⟨v, (hnames v).1 hname, rfl⟩
    | none =>
      right
      refine ⟨fun v hv => ?_, rfl⟩
      rw [(hnames v).2 hv] at hname
      cases hname

theorem ofLookup_eq_ok_iff {s : Settings} :
    ofLookup lookup = .ok s ↔ s = assembled lookup s.variant ∧ Names (counted lookup variantName) s.variant := by
  rcases cases_of_ofLookup lookup with ⟨v, hv, h⟩ | ⟨hno, h⟩
  · rw [h, Except.ok.injEq]
    constructor
    · rintro rfl
      exact ⟨rfl, hv⟩
    · rintro ⟨hs, hnames⟩
      rw [hs, hv.unique hnames]
  · rw [h]
    exact ⟨nofun, fun hs => absurd hs.2 (hno _)⟩

theorem ofLookup_eq_error_iff {e : SettingsError} : ofLookup lookup = .error e ↔
    (∀ v, ¬ Names (counted lookup variantName) v) ∧ e = .invalidVariant (counted lookup variantName) := by
  rcases cases_of_ofLookup lookup with ⟨v, hv, h⟩ | ⟨hno, h⟩
  · rw [h]
    exact ⟨nofun, fun hs => absurd hv (hs.1 v)⟩
  · rw [h, Except.error.injEq, eq_comm]
    exact ⟨fun he => ⟨hno, he⟩, fun he => he.2⟩

/-- Lookups with the same values that count give the same. -/
private theorem ofLookup_congr {lookup' : String → Option String}
    (h : ∀ name ∈ [graphqlName, loginName, tokenName, variantName], counted lookup' name = counted lookup name) :
    ofLookup lookup' = ofLookup lookup := by
  have hassembled : assembled lookup' = assembled lookup := by
    funext v
    simp only [assembled]
    rw [h "PIOT_GRAPHQL_ENDPOINT" (by decide), h "PIOT_LOGIN_ENDPOINT" (by decide), h "PIOT_TOKEN_KEY" (by decide)]
  rw [ofLookup_eq, ofLookup_eq, hassembled, h variantName (by decide)]

/-- There is something in the text, and no blank at its ends. -/
structure Proper (text : String) : Prop where
  nonempty : text ≠ ""
  bare : Bare text

private theorem proper_orDefault {default : String} (h : Proper default) (name : String) :
    Proper (orDefault (counted lookup name) default) := by
  rw [orDefault]
  split
  · exact h
  · exact ⟨‹_›, bare_trim _⟩

private theorem Proper.orDefault_trim {text : String} (h : Proper text) (default : String) :
    orDefault (trim text) default = text := by
  rw [orDefault, h.bare.trim_eq, if_neg h.nonempty]

/-- The texts of settings that a lookup gives. -/
private theorem proper_of_ofLookup {s : Settings} (h : ofLookup lookup = .ok s) :
    ∀ text ∈ [s.graphqlEndpoint, s.loginEndpoint, s.tokenKey], Proper text := by
  obtain ⟨hs, -⟩ := ofLookup_eq_ok_iff.1 h
  have hdefaults : ∀ default ∈ ["http://localhost:9096/query", "http://localhost:9096/login", "token"],
      Proper default := by
    intro default hdefault
    simp only [List.mem_cons, List.not_mem_nil, or_false] at hdefault
    rcases hdefault with rfl | rfl | rfl <;> exact ⟨by decide, by decide⟩
  rw [hs]
  intro text htext
  simp only [assembled, List.mem_cons, List.not_mem_nil, or_false] at htext
  rcases htext with rfl | rfl | rfl <;> exact proper_orDefault (hdefaults _ (by simp)) _

/-- Proper settings are found again, their variant under a name of it in any letter case. -/
private theorem ofLookup_lookup {s : Settings}
    (h : ∀ text ∈ [s.graphqlEndpoint, s.loginEndpoint, s.tokenKey], Proper text) {name : String}
    (hname : SameLetters name s.variant.name) : ofLookup (s.lookup name) = .ok s := by
  have hgraphql : counted (s.lookup name) "PIOT_GRAPHQL_ENDPOINT" = trim s.graphqlEndpoint := rfl
  have hlogin : counted (s.lookup name) "PIOT_LOGIN_ENDPOINT" = trim s.loginEndpoint := rfl
  have htoken : counted (s.lookup name) "PIOT_TOKEN_KEY" = trim s.tokenKey := rfl
  have hvariant : counted (s.lookup name) variantName = trim name := rfl
  have hbare : Bare name := hname.bare s.variant.bare_name
  rw [ofLookup_eq_ok_iff, assembled, hgraphql, hlogin, htoken, hvariant, hbare.trim_eq]
  refine ⟨?_, ?_⟩
  · rw [(h s.graphqlEndpoint (by simp)).orDefault_trim, (h s.loginEndpoint (by simp)).orDefault_trim,
      (h s.tokenKey (by simp)).orDefault_trim]
  · have hne : name ≠ "" := by
      rintro rfl
      exact not_sameLetters_empty _ hname
    exact (names_iff hne).2 hname

/-- A lookup is refused exactly if what is under the name of the variant is neither blank nor the name of one in any
letter case; nothing else matters, and the refusal tells the trimmed text. Otherwise each text is the trimmed value under
its own name, or its default if nothing is left of it, and the variant is the one named, the first one if none is. So the
texts have something in them and no blank at their ends, lookups that agree but for blanks give the same, and settings
that are looked up again come back. -/
theorem settings_of_counted (lookup : String → Option String) :
    let given (name : String) : String := trim ((lookup name).getD "")
    (∀ e, ofLookup lookup = .error e ↔ given "PIOT_CONSOLE_VARIANT" ≠ "" ∧
      ¬ SameLetters (given "PIOT_CONSOLE_VARIANT") "tenant" ∧ ¬ SameLetters (given "PIOT_CONSOLE_VARIANT") "admin" ∧
      e = .invalidVariant (given "PIOT_CONSOLE_VARIANT")) ∧
    (∀ s, ofLookup lookup = .ok s ↔
      s.graphqlEndpoint = orDefault (given "PIOT_GRAPHQL_ENDPOINT") "http://localhost:9096/query" ∧
      s.loginEndpoint = orDefault (given "PIOT_LOGIN_ENDPOINT") "http://localhost:9096/login" ∧
      s.tokenKey = orDefault (given "PIOT_TOKEN_KEY") "token" ∧
      Names (given "PIOT_CONSOLE_VARIANT") s.variant) ∧
    (∀ s, ofLookup lookup = .ok s →
      ∀ text ∈ [s.graphqlEndpoint, s.loginEndpoint, s.tokenKey], text ≠ "" ∧ Bare text) ∧
    (∀ lookup' : String → Option String,
      (∀ name ∈ ["PIOT_GRAPHQL_ENDPOINT", "PIOT_LOGIN_ENDPOINT", "PIOT_TOKEN_KEY", "PIOT_CONSOLE_VARIANT"],
        trim ((lookup' name).getD "") = given name) → ofLookup lookup' = ofLookup lookup) ∧
    (∀ s name, ofLookup lookup = .ok s → SameLetters name s.variant.name → ofLookup (s.lookup name) = .ok s) := by
  intro given
  refine ⟨?_, ?_, ?_, fun _ => ofLookup_congr, fun s name hs => ofLookup_lookup (proper_of_ofLookup hs)⟩
  · intro e
    rw [ofLookup_eq_error_iff, ← and_assoc, ← and_assoc]
    refine and_congr_left fun _ => ?_
    constructor
    · intro hno
      obtain ⟨hblank, htenant⟩ := not_or.1 (hno .tenant)
      exact ⟨⟨hblank, htenant⟩, hno .admin⟩
    · rintro ⟨⟨hblank, htenant⟩, hadmin⟩ (_ | _)
      · exact not_or.2 ⟨hblank, htenant⟩
      · exact hadmin
  · rintro ⟨graphql, login, key, v⟩
    rw [ofLookup_eq_ok_iff, assembled, Settings.mk.injEq]
    simp only [and_true, and_assoc]
    exact Iff.rfl
  · intro s hs text htext
    have hproper := proper_of_ofLookup hs text htext
    exact ⟨hproper.nonempty, hproper.bare⟩

/-- A variant in capitals between blanks, a blank key, and an endpoint behind a line end. -/
theorem settings_among_blanks :
    let lookup (name : String) : Option String :=
      if name = "PIOT_CONSOLE_VARIANT" then some " ADMIN\u00a0"
      else if name = "PIOT_TOKEN_KEY" then some " \t"
      else if name = "PIOT_GRAPHQL_ENDPOINT" then some "\nhttps://x/query" else none
    let s : Settings := ⟨"https://x/query", "http://localhost:9096/login", "token", .admin⟩
    ofLookup lookup = .ok s ∧ SameLetters "aDMIN" s.variant.name ∧ ofLookup (s.lookup "aDMIN") = .ok s ∧
      ofLookup (fun _ => some " root ") = .error (.invalidVariant "root") := by
  intro lookup s
  obtain ⟨-, hok, -, -, hagain⟩ := settings_of_counted lookup
  have hs : ofLookup lookup = .ok s := (hok s).2 ⟨by decide, by decide, by decide, by decide⟩
  have hname : SameLetters "aDMIN" s.variant.name := by decide
  obtain ⟨herror, -⟩ := settings_of_counted fun _ => some " root "
  exact ⟨hs, hname, hagain s "aDMIN" hs hname, (herror _).2 ⟨by decide, by decide, by decide, by decide⟩⟩

end Settings

end ConsoleShell
