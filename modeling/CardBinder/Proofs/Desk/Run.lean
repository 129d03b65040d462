import CardBinder.Proofs.Desk.Call

/-! Runs of calls. Whatever is called and whenever saving fails, the database stays valid. -/

namespace CardBinder
variable {σ : Type}

/-- A call, and whether saving fails while it is done. -/
structure Event (σ : Type) where
  failing : Bool
  call : Call σ

/-- Another strategy that a call brings is sound too. -/
def Call.Sound : Call σ → Prop
  | .setStrategy strategy => strategy.Sound
  | _ => True

namespace Desk

/-- A desk at which saving fails, or works. -/
def withFailing (d : Desk σ) (failing : Bool) : Desk σ :=
  { d with store := { d.store with failing } }

def step (d : Desk σ) (e : Event σ) : Outcome Report × Desk σ :=
  e.call.action.run.run (d.withFailing e.failing)

/-- The desk after a run of calls. -/
def after (d : Desk σ) (events : List (Event σ)) : Desk σ :=
  events.foldl (fun d e => (d.step e).2) d

/-- What holds at a desk between calls. -/
structure Sound (d : Desk σ) : Prop where
  valid : d.db.Valid
  strategy : d.resolver.strategy.Sound
  cache : d.resolver.cache.Within (.known d.db) d.db

end Desk

namespace Database
variable {db : Database}

theorem Orderly.refilled (ho : db.Orderly) (catalog : Catalog) :
    (db.refilled catalog).Orderly := by
  have hsame := sameHoldings_refilled db catalog
  exact ho.emptied (catalogValid_refilled db catalog) hsame.printings hsame.copies hsame.cardSets
    hsame.nextCardSetId hsame.nextCopyId

/-- Nothing refers to anything where there are no card sets and no copies. -/
theorem Orderly.valid_of_nil (ho : db.Orderly) (hsets : db.cardSets = []) (hcopies : db.copies = []) :
    db.Valid where
  toOrderly := ho
  parents := by simp [hsets]
  acyclic id n h := by
    obtain ⟨parent, hparent, _⟩ := Option.bind_eq_some_iff.mp h
    obtain ⟨cs, hcs, _⟩ := parent?_some hparent
    rw [hsets] at hcs
    cases hcs
  copySets := by simp [hcopies]
  copyPrintings := by simp [hcopies]

/-- A database made of a catalog is valid. -/
theorem valid_ofCatalog {catalog : Catalog} (h : ofCatalog catalog = .ok db) : db.Valid := by
  rw [ofCatalog] at h
  split at h
  · rename_i db' cards hload
    obtain rfl := Except.ok.inj h
    have hv := catalogValid_empty.loadCatalog catalog
    have hsame := sameHoldings_loadCatalog empty catalog
    rw [hload] at hv hsame
    have ho := orderly_empty.emptied hv hsame.printings hsame.copies hsame.cardSets
      hsame.nextCardSetId hsame.nextCopyId
    exact ho.valid_of_nil hsame.cardSets hsame.copies
  · cases h

end Database

namespace Desk
variable {d : Desk σ}

theorem Sound.withFailing (h : d.Sound) (failing : Bool) : (d.withFailing failing).Sound :=
  ⟨h.valid, h.strategy, h.cache⟩

/-- The answers at a sound desk are about what is known. -/
theorem Sound.within (h : d.Sound) : d.resolver.Within (.known d.db) d.db where
  strategy := h.strategy d.db h.valid.toCatalogValid
  cache := h.cache

/-- Remembered answers stay right as long as the catalog does. -/
theorem known_of_same {c : NameCache} {db db' : Database} (h : c.Within (.known db) db)
    (hsame : Database.SameCatalog db db') : c.Within (.known db') db' :=
  h.of_same hsame (fun id => (hsame.hasCard id).mpr) fun id => (hsame.hasEntry _ id).mpr

/-- Saved edits, of what is left of the database, keep a desk sound. -/
theorem Sound.edits {d' : Desk σ} {base : Database} {m n : Nat} (h : d.Sound)
    (hb : base.Orderly) (he : Database.Edits base.Knows base m n d'.db)
    (hvalid : d'.db.validate = .ok ()) (hs : d'.resolver.strategy = d.resolver.strategy)
    (hcache : d'.resolver.cache.Within (.known d'.db) d'.db) : d'.Sound :=
  ⟨(he.orderly hb).valid hvalid, hs ▸ h.strategy, hcache⟩

/-- A call that leaves the database alone. -/
theorem Sound.idle {d' : Desk σ} (h : d.Sound) (hdb : d'.db = d.db)
    (hs : d'.resolver.strategy.Sound) (hcache : d'.resolver.cache.Within (.known d.db) d.db) :
    d'.Sound :=
  ⟨hdb ▸ h.valid, hs, hdb ▸ hcache⟩

/-- A call keeps a desk sound, whatever it ends in. -/
theorem Sound.call {c : Call σ} (h : d.Sound) (hc : c.Sound) :
    Ends c.action d fun _ d' => d'.Sound := by
  have hcards : ∀ x ∈ d.db.cards, d.db.HasCard x.id := fun x hx =>
    h.valid.toCatalogValid.hasCard hx
  have hb := h.valid.toOrderly
  refine (c.does h.within hcards).mono ?_
  rintro r d' (hdone | ⟨strategy, rfl, hstore, hresolver⟩)
  · cases hdone with
    | works hw hcache hs =>
      generalize hstore : d'.store = s at hw
      cases hw with
      | idle => exact h.idle (congrArg Store.db hstore) (hs ▸ h.strategy) hcache
      | @edited db m n _ he haccepts =>
        have hdb : d'.db = db := congrArg Store.db hstore
        exact h.edits hb (hdb ▸ he) (hdb ▸ haccepts.valid) hs
          (hdb ▸ known_of_same hcache he.sameCatalog)
      | @lost db id hi haccepts _ =>
        have hdb : d'.db = db := congrArg Store.db hstore
        obtain ⟨n, he⟩ := hi.1
        exact h.edits hb (hdb ▸ he) (hdb ▸ haccepts.valid) hs
          (hdb ▸ known_of_same hcache he.sameCatalog)
    | @refreshes _ _ db catalog cards restoration _ hok haccepts hstore hresolver =>
      have hdb : d'.db = db := congrArg Store.db hstore
      obtain ⟨n, he⟩ := Database.edits_replaceCatalog hok
      refine h.edits (hb.refilled catalog) (hdb ▸ he) (hdb ▸ haccepts.valid) ?_ ?_
      · rw [hresolver, Resolver.invalidate]
      · rw [hresolver]
        exact NameCache.within_empty
  · refine h.idle (congrArg Store.db hstore) ?_ ?_
    · rw [hresolver]
      exact hc
    · rw [hresolver]
      exact NameCache.within_empty

/-- What one event keeps. -/
theorem Sound.step (h : d.Sound) (e : Event σ) (he : e.call.Sound) : (d.step e).2.Sound :=
  (h.withFailing e.failing).call he

/-- What a run keeps. -/
theorem Sound.run (h : d.Sound) (events : List (Event σ)) (he : ∀ e ∈ events, e.call.Sound) :
    (d.after events).Sound := by
  induction events generalizing d with
  | nil => exact h
  | cons e events ih =>
    exact ih (h.step e (he e List.mem_cons_self)) fun e' he' => he e' (List.mem_cons_of_mem _ he')

/-- A new desk over an empty database, or one that holds a catalog only. -/
theorem sound_ofStore {store : Store} {strategy : Strategy σ} (state : σ)
    (hstart : store.db = .empty ∨ ∃ catalog, Database.ofCatalog catalog = .ok store.db)
    (hstrategy : strategy.Sound) : (ofStore store strategy state).Sound := by
  have hvalid : store.db.Valid := by
    rcases hstart with h | ⟨catalog, h⟩
    · rw [h]
      exact Database.orderly_empty.valid_of_nil rfl rfl
    · exact Database.valid_ofCatalog h
  exact ⟨hvalid, hstrategy, NameCache.within_empty⟩

/-- Whatever is called at a desk, in whatever order, and whenever saving fails, the database stays
valid, as a call that would take a counter beyond its last number is stopped; and its rows are in
their places until their table is full. -/
theorem valid_after (store : Store) (strategy : Strategy σ) (state : σ)
    (hstart : store.db = .empty ∨ ∃ catalog, Database.ofCatalog catalog = .ok store.db)
    (hstrategy : strategy.Sound) (events : List (Event σ))
    (hcalls : ∀ e ∈ events, e.call.Sound) :
    ((ofStore store strategy state).after events).db.Valid ∧
      (((ofStore store strategy state).after events).db.Fits →
        ((ofStore store strategy state).after events).db.InPlace) := by
  have hend := (sound_ofStore state hstart hstrategy).run events hcalls
  exact ⟨hend.valid, hend.valid.toOrderly.inPlace⟩

/-- A catalog is brought in, a set is made and filled, and a second one cannot be saved. -/
def firstCalls : List (Event Unit) :=
  [⟨false, .refreshCatalog { cards := [{ name := "Dog" }] }⟩,
    ⟨false, .createSet { name := "Pack" }⟩,
    ⟨true, .createSet { name := "Herd" }⟩,
    ⟨false, .addCards "Pack" "Dog" none 2⟩]

/-- The store after these calls. -/
def firstStore : Store :=
  ((ofStore .empty .exact ()).after firstCalls).store

theorem sound_firstCalls : ∀ e ∈ firstCalls, e.call.Sound := by
  simp [firstCalls, Call.Sound]

theorem valid_after_firstCalls :
    firstStore.db.copies.length = 2 ∧ firstStore.db.Valid :=
  ⟨by decide +kernel, (valid_after .empty .exact () (Or.inl rfl) Strategy.sound_exact
    firstCalls sound_firstCalls).1⟩

end Desk
end CardBinder
