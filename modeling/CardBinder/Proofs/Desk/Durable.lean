import CardBinder.Proofs.Database.Storable
import CardBinder.Proofs.Desk.Run

/-! Runs of calls on a store. What would be read back is the working copy, and what fails is undone. -/

namespace CardBinder
variable {σ : Type}

/-- The cards and expansions that there are numbers for. -/
def Scope.numbers : Scope := ⟨RowId.Fits, RowId.Fits⟩

/-- Whatever is answered is a number that a row can have, as long as there are only such numbers. -/
def Strategy.AnswersFit (strategy : Strategy σ) : Prop :=
  ∀ db : Database, db.CatalogStorable → strategy.Within .numbers db

theorem Strategy.answersFit_exact : (exact : Strategy σ).AnswersFit := by
  intro db h
  refine ⟨?_, fun name _ id hid => h.found .expansion name id hid⟩
  intro name s id hid
  obtain ⟨c, hc, rfl⟩ := Database.findCard_mem hid
  exact (h.cards c hc).1

/-- The numbers that a call brings can be written. -/
def Call.NumbersFit : Call σ → Prop
  | .refreshCatalog catalog => catalog.NumbersFit
  | .setStrategy strategy => strategy.AnswersFit
  | _ => True

theorem Call.NumbersFit.brought {c : Call σ} {catalog : Catalog} (h : c.NumbersFit)
    (hc : catalog ∈ c.brought) : catalog.NumbersFit := by
  cases c with
  | refreshCatalog catalog' => exact Option.some.inj hc ▸ h
  | _ => cases hc

namespace Database
variable {db : Database}

/-- The check before saving does not read the catalog. -/
theorem validate_reindexed (h : db.validate = .ok ()) : db.reindexed.validate = .ok () := by
  obtain ⟨hp, hd, hacyclic⟩ := validate_eq_ok_iff.mp h
  have hclimb : ∀ n id, db.reindexed.climb n id = db.climb n id := climb_congr fun _ => rfl
  exact validate_eq_ok_iff.mpr ⟨hp, hd, fun id n hback => hacyclic id n (hclimb _ id ▸ hback)⟩

end Database

theorem Store.load_saving (s : Store) {db : Database} (h : db.Storable) :
    (s.saving db).load = .ok db.reindexed := by
  simp only [load, databaseOf, saving, Database.ofJson?_toJson h]

namespace Desk

/-- What is saved, or an empty database when nothing is, is read back as the working copy. -/
structure Durable (d : Desk σ) : Prop where
  storable : d.db.Storable
  loads : d.store.load = .ok d.db.reindexed
  strategy : d.resolver.strategy.AnswersFit
  cache : d.resolver.cache.Within .numbers d.db

/-- The working copy is as it was before, and so is the document. -/
def Unchanged (d d' : Desk σ) : Prop :=
  d'.db = d.db ∧ d'.store.saved = d.store.saved

/-- A set was made under the next number and saved, and is not found under that number. -/
structure LosesSet (d d' : Desk σ) (failure : Failure) : Prop where
  made : ∃ cs ∈ d'.db.cardSets, cs.id = ⟨d.db.nextCardSetId⟩
  lost : d'.db.cardSet? ⟨d.db.nextCardSetId⟩ = none
  reported : failure = .setNotFound ("#" ++ toString (⟨d.db.nextCardSetId⟩ : CardSetId))

/-- What a call leaves behind. -/
structure Settles (d : Desk σ) (r : Outcome Report) (d' : Desk σ) : Prop where
  undone : ∀ failure, r = .error failure → Unchanged d d' ∨ LosesSet d d' failure
  loads : d'.store.load = .ok d'.db.reindexed
  checked : d'.store.saved = d.store.saved ∨
    ∃ db, d'.store.load = .ok db ∧ db.validate = .ok ()

/-- The sets are in order, below their counter. -/
def SetsInOrder (d : Desk σ) : Prop :=
  InOrder (·.id.val) d.db.cardSets d.db.nextCardSetId

variable {d d' : Desk σ} {r : Outcome Report}

/-- Where sets are in order, a set that was saved is found again. -/
theorem SetsInOrder.not_losesSet {failure : Failure} (h : d'.SetsInOrder) :
    ¬ LosesSet d d' failure := by
  rintro ⟨⟨cs, hcs, hid⟩, hlost, _⟩
  have hfound := (Database.cardSet?_eq_some_iff h).mpr ⟨hcs, hid⟩
  rw [hlost] at hfound
  cases hfound

/-- A call that does not touch the store. -/
theorem Durable.idle (h : d.Durable) (hstore : d'.store = d.store)
    (hs : d'.resolver.strategy.AnswersFit) (hcache : d'.resolver.cache.Within .numbers d.db) :
    d'.Durable ∧ Settles d r d' ∧ (d.SetsInOrder → d'.SetsInOrder) := by
  have hdb : d'.db = d.db := congrArg Store.db hstore
  have hloads : d'.store.load = .ok d'.db.reindexed := by
    rw [hstore, hdb]
    exact h.loads
  refine ⟨⟨hdb ▸ h.storable, hloads, hs, hdb ▸ hcache⟩, ⟨?_, hloads, ?_⟩, ?_⟩
  · exact fun _ _ => Or.inl ⟨hdb, congrArg Store.saved hstore⟩
  · exact Or.inl (congrArg Store.saved hstore)
  · exact fun ho => by rwa [SetsInOrder, hdb]

/-- A call that saves edits of what is left of the database. -/
theorem Durable.saves {base db : Database} {m n : Nat}
    {K : CardId → Option LookupId → Prop}
    (hsets : base.cardSets = d.db.cardSets) (hnext : base.nextCardSetId = d.db.nextCardSetId)
    (hc : base.CatalogStorable) (hh : base.HoldingsStorable)
    (hk : ∀ {card expansion}, K card expansion → card.Fits ∧ ∀ e ∈ expansion, e.Fits)
    (he : Database.Edits K base m n db) (haccepts : d.store.Accepts db)
    (hstore : d'.store = d.store.saving db)
    (hs : d'.resolver.strategy.AnswersFit) (hcache : d'.resolver.cache.Within .numbers db)
    (hundone : ∀ failure, r = .error failure → LosesSet d d' failure) :
    d'.Durable ∧ Settles d r d' ∧ (d.SetsInOrder → d'.SetsInOrder) := by
  have hdb : d'.db = db := congrArg Store.db hstore
  have hstorable : db.Storable := (he.holdingsStorable hk hh).storable
    (hc.of_same he.sameCatalog) haccepts.valid
  have hloads : d'.store.load = .ok db.reindexed := hstore ▸ d.store.load_saving hstorable
  refine ⟨⟨hdb ▸ hstorable, hdb ▸ hloads, hs, hdb ▸ hcache⟩, ⟨?_, hdb ▸ hloads, ?_⟩, ?_⟩
  · exact fun failure hfail => Or.inr (hundone failure hfail)
  · exact Or.inr ⟨_, hdb ▸ hloads, Database.validate_reindexed haccepts.valid⟩
  · intro ho
    obtain ⟨hcontinues, hcount⟩ := he.cardSets
    have hbase : InOrder (·.id.val) base.cardSets base.nextCardSetId := by rwa [hsets, hnext]
    rw [SetsInOrder, hdb, hcount]
    exact hbase.continues hcontinues

/-- What every call leaves behind, and that it goes on so. -/
theorem Durable.call {c : Call σ} (h : d.Durable) (hc : c.NumbersFit) :
    Ends c.action d fun r d' => d'.Durable ∧ Settles d r d' ∧ (d.SetsInOrder → d'.SetsInOrder) := by
  have hcards : ∀ x ∈ d.db.cards, Scope.numbers.card x.id := fun x hx => (h.storable.cards x hx).1
  have hcatalog := h.storable.toCatalogStorable
  have hholdings := h.storable.toHoldingsStorable
  refine (c.does ⟨h.strategy d.db hcatalog, h.cache⟩ hcards).mono ?_
  rintro r d' (hdone | ⟨strategy, rfl, hstore, hresolver⟩)
  · cases hdone with
    | works hw hcache hs =>
      have hs' : d'.resolver.strategy.AnswersFit := hs ▸ h.strategy
      generalize hstore : d'.store = s at hw
      cases hw with
      | idle => exact h.idle hstore hs' hcache
      | @edited db m n _ he haccepts =>
        refine Durable.saves rfl rfl hcatalog hholdings (fun hk => hk) he haccepts hstore hs'
          (hcache.of_same he.sameCatalog (fun _ h => h) fun _ h => h) ?_
        intro failure hfail
        cases hfail
      | @lost db id hi haccepts hlost =>
        obtain ⟨⟨n, he⟩, rfl, hmade⟩ := hi
        have hdb : d'.db = db := congrArg Store.db hstore
        refine Durable.saves rfl rfl hcatalog hholdings (fun hk => hk) he haccepts hstore hs'
          (hcache.of_same he.sameCatalog (fun _ h => h) fun _ h => h) ?_
        rintro failure hfail
        exact ⟨hdb ▸ hmade, hdb ▸ hlost, (Except.error.inj hfail).symm⟩
    | @refreshes _ _ db catalog cards restoration hbrought hok haccepts hstore hresolver =>
      obtain ⟨n, he⟩ := Database.edits_replaceCatalog hok
      have hv := Database.catalogValid_refilled d.db catalog
      have hfit := hv.storable (Database.numbersFit_refilled (hc.brought hbrought))
      have hsame := Database.sameHoldings_refilled d.db catalog
      have hgeneration := (Database.replaceCatalog_ok hok).1
      refine Durable.saves hsame.cardSets hsame.nextCardSetId hfit
        (hholdings.refilled hgeneration catalog) hv.fits_of_knows he haccepts hstore ?_ ?_ ?_
      · rw [hresolver]
        exact h.strategy
      · rw [hresolver]
        exact NameCache.within_empty
      · intro failure hfail
        cases hfail
  · refine h.idle hstore ?_ ?_
    · rw [hresolver]
      exact hc
    · rw [hresolver]
      exact NameCache.within_empty

/-- A store that was opened holds what its document says. -/
theorem durable_ofStore {location : String} {saved : Option Json} {store : Store}
    {strategy : Strategy σ} (hopen : Store.openAt location saved = .ok store)
    (hs : strategy.AnswersFit) (state : σ) : (ofStore store strategy state).Durable := by
  obtain ⟨db, hdb, hopen⟩ := Outcome.bind_ok hopen
  obtain rfl := Except.ok.inj hopen
  have hread : db.Storable ∧ db.reindexed = db := by
    unfold Store.databaseOf at hdb
    split at hdb
    · obtain rfl := Except.ok.inj hdb
      exact ⟨Database.storable_empty, Database.reread_empty.reindexed⟩
    · split at hdb
      · rename_i hdoc
        exact Database.of_ofJson? (Except.ok.inj hdb ▸ hdoc)
      · cases hdb
  have hload : Store.databaseOf saved = .ok db.reindexed := hread.2.symm ▸ hdb
  exact ⟨hread.1, hload, hs, NameCache.within_empty⟩

/-- What one event leaves behind. -/
theorem Durable.step (h : d.Durable) {e : Event σ} (he : e.call.NumbersFit) :
    (d.step e).2.Durable ∧ Settles d (d.step e).1 (d.step e).2 ∧
      (d.SetsInOrder → (d.step e).2.SetsInOrder) := by
  have hstart : (d.withFailing e.failing).Durable := ⟨h.storable, h.loads, h.strategy, h.cache⟩
  obtain ⟨hd, ⟨hundone, hloads, hchecked⟩, horder⟩ := hstart.call he
  refine ⟨hd, ⟨fun failure hfail => ?_, hloads, hchecked⟩, horder⟩
  rcases hundone failure hfail with hsame | hlost
  · exact Or.inl hsame
  · exact Or.inr ⟨hlost.made, hlost.lost, hlost.reported⟩

theorem Durable.run (h : d.Durable) (events : List (Event σ))
    (he : ∀ e ∈ events, e.call.NumbersFit) : (d.after events).Durable := by
  induction events generalizing d with
  | nil => exact h
  | cons e events ih =>
    exact ih (h.step (he e List.mem_cons_self)).1 fun e' he' => he e' (List.mem_cons_of_mem _ he')

theorem SetsInOrder.run (hs : d.SetsInOrder) (h : d.Durable) (events : List (Event σ))
    (he : ∀ e ∈ events, e.call.NumbersFit) : (d.after events).SetsInOrder := by
  induction events generalizing d with
  | nil => exact hs
  | cons e events ih =>
    obtain ⟨hd, _, horder⟩ := h.step (he e List.mem_cons_self)
    exact ih (horder hs) hd fun e' he' => he e' (List.mem_cons_of_mem _ he')

/-- After any run on any stored document, a call that fails changes neither the working copy nor the
document, unless it has saved a set that its number does not lead to; which does not happen when the
stored sets are in order. What would be read back is the working copy, and what was saved passes the
check. -/
theorem settles_after (location : String) (saved : Option Json) (store : Store)
    (hopen : Store.openAt location saved = .ok store) (strategy : Strategy σ) (state : σ)
    (hstrategy : strategy.AnswersFit) (events : List (Event σ)) (e : Event σ)
    (hcalls : ∀ x ∈ events ++ [e], x.call.NumbersFit) :
    Settles ((ofStore store strategy state).after events)
        (((ofStore store strategy state).after events).step e).1
        (((ofStore store strategy state).after events).step e).2 ∧
      (InOrder (·.id.val) store.db.cardSets store.db.nextCardSetId →
        ∀ failure, (((ofStore store strategy state).after events).step e).1 = .error failure →
          Unchanged ((ofStore store strategy state).after events)
            (((ofStore store strategy state).after events).step e).2) := by
  have hstart := durable_ofStore hopen hstrategy state
  have hrun := hstart.run events fun x hx => hcalls x (List.mem_append_left _ hx)
  obtain ⟨_, hsettles, _⟩ :=
    hrun.step (hcalls e (List.mem_append_right _ (List.mem_singleton_self e)))
  refine ⟨hsettles, fun ho failure hfail => ?_⟩
  have horder : (ofStore store strategy state).SetsInOrder := ho
  have hend := horder.run hstart (events ++ [e]) hcalls
  have hlast : (ofStore store strategy state).after (events ++ [e]) =
      (((ofStore store strategy state).after events).step e).2 := List.foldl_concat ..
  rw [hlast] at hend
  exact (hsettles.undone failure hfail).resolve_right hend.not_losesSet

theorem settles_after_firstCalls :
    Unchanged ((ofStore .empty .exact ()).after firstCalls)
      (((ofStore .empty .exact ()).after firstCalls).step ⟨true, .deleteSet "Pack"⟩).2 := by
  have hcalls : ∀ x ∈ firstCalls ++ [⟨true, .deleteSet "Pack"⟩], x.call.NumbersFit := by
    have hcard : (Database.cardOfRecord { name := "Dog" }).NumbersFit :=
      ⟨nofun, nofun, nofun, nofun⟩
    simpa [firstCalls, Call.NumbersFit, Catalog.NumbersFit] using hcard
  obtain ⟨_, hunchanged⟩ := settles_after "memory://sutekh" none .empty rfl .exact ()
    Strategy.answersFit_exact firstCalls ⟨true, .deleteSet "Pack"⟩ hcalls
  exact hunchanged inOrder_nil (.store "Simulated write error") (by decide +kernel)

/-- Two sets that are stored with numbers above the counter. -/
def lowCounter : Database :=
  { Database.empty with
    cardSets := [CardSetDraft.toCardSet { name := "Pack" } ⟨5⟩,
      CardSetDraft.toCardSet { name := "Herd" } ⟨6⟩] }

/-- A set that is made next to them is saved and then not found, which is reported as a failure. -/
theorem fails_after_saving :
    ∃ store, Store.openAt "memory://sutekh" (some lowCounter.toJson) = .ok store ∧
      ((ofStore store .exact ()).step ⟨false, .createSet { name := "Flock" }⟩).1 =
        .error (.setNotFound "#0") ∧
      ¬ Unchanged (ofStore store .exact ())
        ((ofStore store .exact ()).step ⟨false, .createSet { name := "Flock" }⟩).2 := by
  have hread : Database.ofJson? lowCounter.toJson = some lowCounter := by decide +kernel
  refine ⟨⟨"memory://sutekh", lowCounter, some lowCounter.toJson, false, 0⟩, ?_, ?_, ?_⟩
  · simp only [Store.openAt, Store.databaseOf, hread]
    rfl
  · decide +kernel
  · rintro ⟨hdb, _⟩
    exact absurd (congrArg (·.cardSets.length) hdb) (by decide +kernel)

end Desk
end CardBinder
