import ConsoleShell.Console
import ConsoleShell.Proofs.Deeds

/-!
# The signal of an owner

The observer that was subscribed first of all is called first in every round. So it is told of a mutation before
anybody can act on it, and what it was told last is the state of the store at every moment, however deeply rounds are
nested. The signal of an owner is such an observer if nobody was subscribed when the owner was attached.

* `Store.Leads.run`: the observer that comes first is up to date throughout a run.
* `Console.Reached`: the consoles there can be, in the middle of a call too.
* `attached_signal_up_to_date`: what the signal shows until the session is torn down, and what a cleanup leaves.
-/

namespace ConsoleShell

namespace Store

/-- The observer comes first on the registry, and no round has yet to reach it. -/
structure Leads (s : Store) (id : Nat) : Prop where
  first : s.registry.ids.head? = some id
  ascending : s.registry.Ascending
  reached : ¬ s.Awaits id

variable {s : Store} {id : Nat}

/-- The others come later, so they have larger numbers. -/
private theorem Leads.not_mem_rest (h : s.Leads id) {i : Nat} {rest : List Nat} (hids : s.registry.ids = i :: rest) :
    i = id ∧ id ∉ rest := by
  have hfirst : i = id := by simpa [hids] using h.first
  have hsorted := h.ascending.ids
  rw [hids, List.pairwise_cons] at hsorted
  refine ⟨hfirst, fun hmem => ?_⟩
  have hlt : i < id := hsorted.1 id hmem
  omega

private theorem Leads.mutate (h : s.Leads id) (m : Mutation) : (s.issue (.mutate m)).1.Leads id ∧
    (s.issue (.mutate m)).2 = some ⟨id, (s.issue (.mutate m)).1.snapshot⟩ := by
  obtain ⟨i, rest, hids⟩ : ∃ i rest, s.registry.ids = i :: rest := by
    cases hids : s.registry.ids with
    | nil =>
      have := h.first
      simp [hids] at this
    | cons i rest => exact ⟨i, rest, rfl⟩
  obtain ⟨rfl, hrest⟩ := h.not_mem_rest hids
  have hopen : (s.apply m).openRound = _ := openRound_of_cons hids
  rw [issue, hopen]
  refine ⟨⟨h.first, h.ascending, ?_⟩, rfl⟩
  rintro ⟨r, hr, hwaits⟩
  rcases List.mem_cons.1 hr with rfl | hr
  · exact hrest hwaits
  · exact h.reached ⟨r, hr, hwaits⟩

private theorem Leads.proceed (h : s.Leads id) : s.proceed.1.Leads id ∧ lastState id s.proceed.2.toList = none := by
  have hkeep : ∀ rs : List Round, (∀ r ∈ rs, id ∉ r.waiting) → Leads { s with rounds := rs } id :=
    fun rs hrs => ⟨h.first, h.ascending, fun ⟨r, hr, hwaits⟩ => hrs r hr hwaits⟩
  have hold : ∀ r ∈ s.rounds, id ∉ r.waiting := fun r hr hwaits => h.reached ⟨r, hr, hwaits⟩
  unfold Store.proceed
  split
  · exact ⟨h, rfl⟩
  · rename_i r rs hr
    rw [hr] at hold
    have hrest : ∀ q ∈ rs, id ∉ q.waiting := fun q hq => hold q (List.mem_cons_of_mem _ hq)
    split
    · exact ⟨hkeep rs hrest, rfl⟩
    · -- somebody who waited is called, and the first observer did not wait
      rename_i i rest hw
      have hhead : id ∉ i :: rest := by
        rw [← hw]
        exact hold r List.mem_cons_self
      rw [List.mem_cons, not_or] at hhead
      refine ⟨hkeep (⟨r.state, i, rest⟩ :: rs) ?_, ?_⟩
      · intro q hq
        rcases List.mem_cons.1 hq with rfl | hq
        · exact hhead.2
        · exact hrest q hq
      · simp [lastState, Ne.symm hhead.1]

private theorem Leads.unsubscribe (h : s.Leads id) {i : Nat} (hne : i ≠ id) :
    (s.issue (.unsubscribe i)).1.Leads id := by
  refine ⟨?_, h.ascending.unsubscribe i, h.reached⟩
  have hfirst := h.first
  cases hids : s.registry.ids with
  | nil => simp [hids] at hfirst
  | cons j rest =>
    obtain rfl : j = id := by simpa [hids] using hfirst
    simp [issue, Registry.unsubscribe, hids, Ne.symm hne]

/-- What the first observer was told last, or the state at the start, is the state of the store after a move, too. -/
private theorem Leads.move (h : s.Leads id) {m : Move} (hm : m.spares id) : (s.move m).1.Leads id ∧
    (lastState id (s.move m).2.toList).getD s.snapshot = (s.move m).1.snapshot := by
  cases m with
  | proceed =>
    obtain ⟨hleads, hlast⟩ := h.proceed
    refine ⟨hleads, ?_⟩
    rw [Store.move, hlast]
    simp [snapshot]
  | issue c =>
    cases c with
    | mutate m =>
      obtain ⟨hleads, hcall⟩ := h.mutate m
      refine ⟨hleads, ?_⟩
      rw [Store.move, hcall]
      simp [lastState]
    | subscribe =>
      refine ⟨⟨?_, h.ascending.subscribe, h.reached⟩, rfl⟩
      show (s.registry.ids ++ _).head? = some id
      rw [List.head?_append, h.first]
      rfl
    | unsubscribe i =>
      have hne : i ≠ id := by simpa [Move.spares] using hm
      exact ⟨h.unsubscribe hne, rfl⟩
    | teardown => simp [Move.spares] at hm
    | change c => exact ⟨⟨h.first, h.ascending, h.reached⟩, rfl⟩

theorem Leads.run (h : s.Leads id) {ms : List Move} (hms : ∀ m ∈ ms, m.spares id) :
    (lastState id (s.calls ms)).getD s.snapshot = (s.run ms).snapshot := by
  induction ms generalizing s with
  | nil => rfl
  | cons m ms ih =>
    obtain ⟨hleads, hlast⟩ := h.move (hms m (by simp))
    rw [calls, lastState_append, Option.getD_or, hlast, run_cons]
    exact ih hleads fun n hn => hms n (by simp [hn])

/-- With nobody registered, the next observer to be subscribed comes first. -/
private theorem leads_subscribe (hs : s.Numbered) (hnone : s.registry.ids = []) :
    (s.issue .subscribe).1.Leads s.registry.next where
  first := by simp [issue, Registry.subscribe, hnone]
  ascending := hs.registry.subscribe
  reached := by
    rintro ⟨r, hr, hwaits⟩
    exact Nat.lt_irrefl _ (hs.waiting r hr _ hwaits)

end Store

/-! ### Consoles -/

namespace Console

variable {c : Console}

private theorem own_onOwn (c : Console) (f : Watched → Watched) : (c.onOwn f).own = { f c.own with events := [] } := rfl

/-- The consoles that come about, whatever is done with the store of the console and around it. -/
inductive Reached : Console → Prop
  | start {settings : Settings} {storage : Storage} {c : Console} (h : Console.start settings storage = .ok c) :
      Reached c
  | own {c : Console} (h : Reached c) (ds : List Watched.Deed) : Reached (c.onOwn (·.run ds))
  /-- Something happens in the stores of later pages, and with it to the storage. -/
  | elsewhere {c : Console} (h : Reached c) (scenario : Scenario) (hfirst : scenario.first = c.scenario.first) :
      Reached { c with scenario := scenario }
  | attach {c : Console} (h : Reached c) (label : String) : Reached (c.attach label)
  | cleanup {c : Console} (h : Reached c) (label : String) : Reached (c.cleanup label)
  | disposeSignal {c : Console} (h : Reached c) (label : String) : Reached (c.disposeSignal label)

/-- Storage, labels and events have no part in the numbers. -/
private theorem numbered_own_iff : c.own.Numbered ↔ c.scenario.first.Numbered := by
  constructor
  · exact fun h => ⟨h.length, h.store.registry, h.store.waiting⟩
  · exact fun h => ⟨h.length, h.store.registry, h.store.waiting⟩

private theorem numbered_onOwn (h : c.own.Numbered) (ds : List Watched.Deed) : (c.onOwn (·.run ds)).own.Numbered :=
  ⟨(h.run ds).length, (h.run ds).store⟩

private theorem numbered_release (h : c.own.Numbered) (o : Owner) : (c.release o).own.Numbered := by
  rw [release]
  split
  · exact numbered_onOwn (numbered_onOwn h [.step .teardown]) [.silence o.observer]
  · exact h

/-- A console starts with a restored session, and nobody is subscribed to it. -/
private theorem own_start {settings : Settings} {storage : Storage} (h : Console.start settings storage = .ok c) :
    c.own = { shell := { store := (Store.new storage).apply .restore, endpoints := settings.endpoints } } ∧
      c.owners = [] := by
  unfold start at h
  split at h
  · cases h
  · obtain rfl := Except.ok.inj h
    let fresh := (Scenario.new storage settings.endpoints).view 0
    have hsettled : (fresh.perform (.mutate .restore)).1 = (fresh.act (.mutate .restore)).1 :=
      Watched.settle_of_rounds_nil rfl
    refine ⟨?_, rfl⟩
    show { (fresh.perform (.mutate .restore)).1 with events := [] } = _
    rw [hsettled]
    rfl

private theorem Reached.numbered (h : Reached c) : c.own.Numbered := by
  induction h with
  | @start _ storage _ h =>
    rw [(own_start h).1]
    exact ⟨rfl, Store.ascending_new storage, by simp [Watched.store, Store.new, Store.apply]⟩
  | own _ ds ih => exact numbered_onOwn ih ds
  | @elsewhere c _ scenario hfirst ih =>
    rw [numbered_own_iff] at ih ⊢
    rw [hfirst]
    exact ih
  | @attach c _ label ih =>
    have hattached : (c.onOwn (·.attachSignal)).own.Numbered := numbered_onOwn ih [.attachSignal]
    cases ho : c.owner? label with
    | none =>
      rw [Console.attach, ho]
      exact hattached
    | some o =>
      rw [Console.attach, ho]
      exact numbered_release hattached o
  | @cleanup c _ label ih =>
    cases ho : c.owner? label with
    | none =>
      rw [Console.cleanup, ho]
      exact ih
    | some o =>
      rw [Console.cleanup, ho]
      exact numbered_release ih o
  | @disposeSignal c _ label ih =>
    cases ho : c.owner? label with
    | none =>
      rw [Console.disposeSignal, ho]
      exact ih
    | some o =>
      rw [Console.disposeSignal, ho]
      exact numbered_onOwn ih [.silence o.observer]

/-- An owner is attached under the label that has not been cleaned up. -/
def occupied (c : Console) (label : String) : Bool := (c.owner? label).any (·.alive)

private theorem lookup_map_at {α : Type} (l : List (String × α)) (a : String) (f : α → α) :
    (l.map fun p => if p.1 = a then (p.1, f p.2) else p).lookup a = (l.lookup a).map f := by
  induction l with
  | nil => rfl
  | cons p l ih =>
    obtain ⟨k, v⟩ := p
    rw [List.map_cons]
    by_cases hk : k = a
    · simp [hk]
    · have hne : (a == k) = false := beq_eq_false_iff_ne.2 (Ne.symm hk)
      simp only [hk, if_false, List.lookup_cons, hne]
      exact ih

private theorem owner?_attach (c : Console) (label : String) :
    (c.attach label).owner? label = some { observer := c.own.store.registry.next } := by
  simp [attach, owner?]

private theorem own_attach {label : String} (h : c.occupied label = false) :
    (c.attach label).own = { c.own.attachSignal with events := [] } := by
  cases ho : c.owner? label with
  | none =>
    rw [attach, ho]
    rfl
  | some o =>
    have hgone : o.alive = false := by simpa [occupied, ho] using h
    rw [attach, ho]
    simp only [release, hgone]
    rfl

private theorem own_cleanup {label : String} {o : Owner} (ho : c.owner? label = some o) (halive : o.alive = true) :
    (c.cleanup label).own = { (c.own.act .teardown).1.silence o.observer with events := [] } := by
  rw [cleanup, ho]
  simp only [release, halive]
  rfl

/-- The signal of an owner is gone with it. -/
private theorem signal?_cleanup {label : String} {o : Owner} (ho : c.owner? label = some o) (halive : o.alive = true) :
    (c.cleanup label).signal? label = none := by
  have howner : (c.cleanup label).owner? label = some { o with alive := false } := by
    rw [cleanup, ho]
    refine (lookup_map_at c.owners label fun p => { p with alive := false }).trans ?_
    rw [show c.owners.lookup label = some o from ho]
    rfl
  have hsilent := Watched.signal?_silence (c.own.act .teardown).1 o.observer
  rw [signal?, howner, own_cleanup ho halive]
  exact hsilent

private theorem store_cleanup {label : String} {o : Owner} (ho : c.owner? label = some o) (halive : o.alive = true) :
    (c.cleanup label).own.store = (c.own.store.issue .teardown).1 :=
  congrArg Watched.store (own_cleanup ho halive)

/-- After a cleanup, whoever was subscribed before it gets the calls that are due, and no other. -/
private theorem calls_of_cleanup {label : String} {o : Owner} (ho : c.owner? label = some o) (halive : o.alive = true)
    {id : Nat} (hid : id < c.own.store.registry.next) (later : List Watched.Deed) :
    callsTo id ((c.cleanup label).own.store.calls ((c.cleanup label).own.moves later)) ++
      due id ((c.cleanup label).own.run later).store.rounds = due id c.own.store.rounds := by
  have hstore := store_cleanup ho halive
  have hoff : id ∉ (c.cleanup label).own.store.registry.ids := by
    rw [hstore]
    exact Store.not_mem_of_silences rfl _
  have hlt : id < (c.cleanup label).own.store.registry.next := by
    rw [hstore]
    exact hid
  rw [Watched.store_run, Store.callsTo_calls_append_due _ hoff hlt, hstore]
  rfl

private theorem leads_attach (hc : c.Reached) (hnone : c.own.store.registry.ids = []) {label : String}
    (hfree : c.occupied label = false) : (c.attach label).own.store.Leads c.own.store.registry.next := by
  rw [own_attach hfree]
  exact Store.leads_subscribe hc.numbered.store hnone

/-- The signal is there from the start, and shows the state at that moment. -/
private theorem signal?_attach (hc : c.Reached) {label : String} (hfree : c.occupied label = false) :
    c.own.store.registry.next < (c.attach label).own.observers.length ∧
      (c.attach label).own.signal? c.own.store.registry.next = some (c.attach label).own.store.snapshot := by
  rw [own_attach hfree, ← hc.numbered.length]
  constructor
  · show c.own.observers.length < (c.own.observers ++ [_]).length
    rw [List.length_append, List.length_singleton]
    omega
  · exact c.own.signal?_attachSignal

/-- From the moment it is attached, the signal of an owner shows the state of the session at every moment, during calls
too, until the session is torn down or the observer of the signal is unsubscribed, if nobody was subscribed before. A
cleanup leaves nobody subscribed and the session as it was; whoever was subscribed before it gets the calls that the
rounds then under way still owe, and none for a later mutation. -/
theorem attached_signal_up_to_date (hc : c.Reached) (label : String) :
    (c.own.store.registry.ids = [] → c.occupied label = false →
      ∀ ds, (∀ m ∈ (c.attach label).own.moves ds, m.spares c.own.store.registry.next) →
        Watched.Deed.silence c.own.store.registry.next ∉ ds →
        let now := (c.attach label).onOwn (·.run ds)
        now.signal? label = some now.own.store.snapshot) ∧
    ∀ ds,
      let before := (c.attach label).onOwn (·.run ds)
      let gone := before.cleanup label
      gone.own.store.registry.size = 0 ∧ gone.own.store.session = before.own.store.session ∧
        gone.signal? label = none ∧
        ∀ later, ∀ id < before.own.store.registry.next,
          callsTo id (gone.own.store.calls (gone.own.moves later)) ++ due id (gone.own.run later).store.rounds =
            due id before.own.store.rounds := by
  constructor
  · intro hnone hfree ds hspares hsilence now
    have hleads := leads_attach hc hnone hfree
    obtain ⟨hid, hstart⟩ := signal?_attach hc hfree
    have hshown : now.signal? label = ((c.attach label).own.run ds).signal? c.own.store.registry.next := by
      show ((c.attach label).owner? label).bind _ = _
      rw [owner?_attach]
      rfl
    rw [hshown, Watched.signal?_run hid hsilence, hstart, Option.map_some, hleads.run hspares, ← Watched.store_run]
    rfl
  · intro ds before gone
    have ho : before.owner? label = some { observer := c.own.store.registry.next } := c.owner?_attach label
    have hstore : gone.own.store = (before.own.store.issue .teardown).1 := store_cleanup ho rfl
    refine ⟨?_, ?_, signal?_cleanup ho rfl, fun later id hid => calls_of_cleanup ho rfl hid later⟩
    · rw [hstore]
      rfl
    · rw [hstore]
      rfl

/-- A second observer is told that the session is authenticated, and signs out before it returns. The signal, which was
called first in both rounds, shows the session signed out. -/
theorem shown_within_call :
    ∃ c, Console.start {} (.register { key := "token" }) = .ok c ∧ c.Reached ∧ c.own.store.registry.ids = [] ∧
      c.occupied "main" = false ∧
      let ds : List Watched.Deed :=
        [.step (.subscribe "second" none), .step (.mutate (.login "tok" ⟨"user@example.com"⟩)), .advance,
          .step (.mutate .signout)]
      (∀ m ∈ (c.attach "main").own.moves ds, m.spares c.own.store.registry.next) ∧
      Watched.Deed.silence c.own.store.registry.next ∉ ds ∧
      let now := (c.attach "main").onOwn (·.run ds)
      now.own.store.rounds.length = 2 ∧ now.own.store.snapshot = {} ∧
        now.signal? "main" = some now.own.store.snapshot ∧
        let gone := now.cleanup "main"
        gone.own.store.registry.size = 0 ∧ 1 < now.own.store.registry.next ∧
          callsTo 1 (gone.own.store.calls (gone.own.moves [])) ++ due 1 (gone.own.run []).store.rounds =
            due 1 now.own.store.rounds := by
  obtain ⟨c, hc⟩ : ∃ c, Console.start {} (.register { key := "token" }) = .ok c := ⟨_, rfl⟩
  obtain ⟨hown, howners⟩ := own_start hc
  have hreached : c.Reached := .start hc
  have hnone : c.own.store.registry.ids = [] := by
    rw [hown]
    rfl
  have hfree : c.occupied "main" = false := by
    rw [occupied, owner?, howners]
    rfl
  refine ⟨c, hc, hreached, hnone, hfree, ?_⟩
  intro ds
  have hattached := own_attach hfree
  rw [hown] at hattached
  have hspares : ∀ m ∈ (c.attach "main").own.moves ds, m.spares c.own.store.registry.next := by
    rw [hattached, hown]
    decide
  have hsilence : Watched.Deed.silence c.own.store.registry.next ∉ ds := by simp [ds]
  have hnow := (c.attach "main").own_onOwn (·.run ds)
  rw [hattached] at hnow
  have hlt : 1 < ((c.attach "main").onOwn (·.run ds)).own.store.registry.next := by
    rw [hnow]
    decide
  obtain ⟨hshown, hgone⟩ := attached_signal_up_to_date hreached "main"
  obtain ⟨hsize, -, -, hdue⟩ := hgone ds
  refine ⟨hspares, hsilence, ?_, ?_, hshown hnone hfree ds hspares hsilence, hsize, hlt, hdue [] 1 hlt⟩
  · rw [hnow]
    rfl
  · rw [hnow]
    rfl

end Console

end ConsoleShell
