import CardBinder.Catalog.Load
import CardBinder.Proofs.Links
import CardBinder.Proofs.Lookup.Index

/-! What holds of the catalog side of a database: rows are numbered by their places, names and pairs
are stored once, and whatever a row refers to exists. -/

namespace CardBinder.Database
variable {db db' : Database} {kind : LookupKind} {r : Relation} {n : Nat}

def HasEntry (db : Database) (kind : LookupKind) (id : LookupId) : Prop :=
  Leads (·.id.val) (db.lookupEntries kind) id.val

def HasCard (db : Database) (id : CardId) : Prop :=
  Leads (·.id.val) db.cards id.val

/-- What a link of a relation leads to: an entry of its lookup table, or a pair. -/
def HasTarget (db : Database) (r : Relation) (n : Nat) : Prop :=
  match r.lookupKind? with
  | some kind => db.HasEntry kind ⟨n⟩
  | none =>
    r = .discipline ∧ Leads (·.id.val) db.disciplinePairs n ∨
      r = .rarity ∧ Leads (·.id.val) db.rarityPairs n

/-- A card, and an expansion or none, that a printing can be of. -/
def Knows (db : Database) (card : CardId) (expansion : Option LookupId) : Prop :=
  db.HasCard card ∧ ∀ e ∈ expansion, db.HasEntry .expansion e

structure CatalogValid (db : Database) : Prop where
  lookups : ∀ kind, (db.lookupTable kind).Indexed
  disciplinePairs : Numbered (·.id.val) db.disciplinePairs
  disciplinesOnce : (db.disciplinePairs.map fun p => (p.discipline, p.level)).Nodup
  disciplinesKnown : ∀ p ∈ db.disciplinePairs, db.HasEntry .discipline p.discipline
  rarityPairs : Numbered (·.id.val) db.rarityPairs
  raritiesOnce : (db.rarityPairs.map fun p => (p.expansion, p.rarity)).Nodup
  raritiesKnown : ∀ p ∈ db.rarityPairs,
    db.HasEntry .expansion p.expansion ∧ db.HasEntry .rarity p.rarity
  cards : Numbered (·.id.val) db.cards
  cardsOnce : (db.cards.map (·.canonicalName)).Nodup
  linksSorted : ∀ r, (db.relation r).Sorted
  linksKnown : ∀ r, ∀ l ∈ (db.relation r).links, db.HasCard l.card ∧ db.HasTarget r l.target

/-- Nothing that could be referred to is gone. -/
structure Grows (db db' : Database) : Prop where
  entries : ∀ kind id, db.HasEntry kind id → db'.HasEntry kind id
  disciplinePairs : ∀ n, Leads (·.id.val) db.disciplinePairs n →
    Leads (·.id.val) db'.disciplinePairs n
  rarityPairs : ∀ n, Leads (·.id.val) db.rarityPairs n → Leads (·.id.val) db'.rarityPairs n
  cards : ∀ id, db.HasCard id → db'.HasCard id

theorem Grows.target (h : Grows db db') (ht : db.HasTarget r n) : db'.HasTarget r n := by
  unfold HasTarget at ht ⊢
  split at ht
  · exact h.entries _ _ ht
  · exact ht.imp (And.imp_right (h.disciplinePairs n)) (And.imp_right (h.rarityPairs n))

/-- The same catalog; printings and card sets may differ. -/
structure SameCatalog (db db' : Database) : Prop where
  lookups : db'.lookups = db.lookups
  disciplinePairs : db'.disciplinePairs = db.disciplinePairs
  rarityPairs : db'.rarityPairs = db.rarityPairs
  cards : db'.cards = db.cards
  relations : db'.relations = db.relations
  generation : db'.generation = db.generation

theorem SameCatalog.refl (db : Database) : SameCatalog db db := ⟨rfl, rfl, rfl, rfl, rfl, rfl⟩

theorem SameCatalog.trans {db'' : Database} (h : SameCatalog db db') (h' : SameCatalog db' db'') :
    SameCatalog db db'' where
  lookups := h'.lookups.trans h.lookups
  disciplinePairs := h'.disciplinePairs.trans h.disciplinePairs
  rarityPairs := h'.rarityPairs.trans h.rarityPairs
  cards := h'.cards.trans h.cards
  relations := h'.relations.trans h.relations
  generation := h'.generation.trans h.generation

theorem SameCatalog.lookupTable (h : SameCatalog db db') (kind : LookupKind) :
    db'.lookupTable kind = db.lookupTable kind := by
  rw [Database.lookupTable, Database.lookupTable, h.lookups]

theorem SameCatalog.relation (h : SameCatalog db db') (r : Relation) :
    db'.relation r = db.relation r := by
  rw [Database.relation, Database.relation, h.relations]

theorem SameCatalog.hasEntry (h : SameCatalog db db') (kind : LookupKind) (id : LookupId) :
    db'.HasEntry kind id ↔ db.HasEntry kind id := by
  rw [HasEntry, HasEntry, lookupEntries, lookupEntries, h.lookupTable]

theorem SameCatalog.hasCard (h : SameCatalog db db') (id : CardId) :
    db'.HasCard id ↔ db.HasCard id := by
  rw [HasCard, HasCard, h.cards]

theorem SameCatalog.knows (h : SameCatalog db db') {card : CardId} {expansion : Option LookupId} :
    db'.Knows card expansion ↔ db.Knows card expansion := by
  simp only [Knows, h.hasCard, h.hasEntry]

theorem SameCatalog.grows (h : SameCatalog db db') : Grows db db' where
  entries kind id := (h.hasEntry kind id).mpr
  disciplinePairs n := by rw [h.disciplinePairs]; exact id
  rarityPairs n := by rw [h.rarityPairs]; exact id
  cards id := (h.hasCard id).mpr

theorem CatalogValid.of_same (hv : db.CatalogValid) (h : SameCatalog db db') :
    db'.CatalogValid where
  lookups kind := h.lookupTable kind ▸ hv.lookups kind
  disciplinePairs := h.disciplinePairs ▸ hv.disciplinePairs
  disciplinesOnce := h.disciplinePairs ▸ hv.disciplinesOnce
  disciplinesKnown p hp :=
    (h.hasEntry _ _).mpr (hv.disciplinesKnown p (h.disciplinePairs ▸ hp))
  rarityPairs := h.rarityPairs ▸ hv.rarityPairs
  raritiesOnce := h.rarityPairs ▸ hv.raritiesOnce
  raritiesKnown p hp := by
    have hk := hv.raritiesKnown p (h.rarityPairs ▸ hp)
    exact ⟨(h.hasEntry _ _).mpr hk.1, (h.hasEntry _ _).mpr hk.2⟩
  cards := h.cards ▸ hv.cards
  cardsOnce := h.cards ▸ hv.cardsOnce
  linksSorted r := h.relation r ▸ hv.linksSorted r
  linksKnown r l hl := by
    have hk := hv.linksKnown r l (h.relation r ▸ hl)
    exact ⟨(h.hasCard _).mpr hk.1, h.grows.target hk.2⟩

/-! Links -/

theorem mem_related {card : CardId} : n ∈ db.related card r ↔ ⟨card, n⟩ ∈ (db.relation r).links := by
  simp only [related, LinkTable.forward, List.mem_map, List.mem_filter, beq_iff_eq]
  constructor
  · rintro ⟨l, ⟨hl, rfl⟩, rfl⟩
    exact hl
  · intro h
    exact ⟨_, ⟨h, rfl⟩, rfl⟩

theorem hasRelation_iff {card : CardId} : db.hasRelation card r n ↔ n ∈ db.related card r := by
  rw [mem_related, hasRelation, LinkTable.contains, List.contains_iff_mem]

/-! Names lead to what is known -/

theorem cardWithKey?_mem {key : String} {id : CardId} (h : db.cardWithKey? key = some id) :
    ∃ c ∈ db.cards, c.id = id ∧ c.canonicalName = key := by
  obtain ⟨c, hc, hid⟩ := Option.map_eq_some_iff.mp h
  exact ⟨c, List.mem_reverse.mp (List.mem_of_find?_eq_some hc), hid,
    by simpa using List.find?_some hc⟩

theorem cardWithKey?_eq_none_iff {key : String} :
    db.cardWithKey? key = none ↔ ∀ c ∈ db.cards, c.canonicalName ≠ key := by
  rw [cardWithKey?, Option.map_eq_none_iff, List.find?_eq_none]
  simp

/-- No two cards have one key, so each is found under its own. -/
theorem CatalogValid.cardWithKey?_mem_cards (hv : db.CatalogValid) {c : Card} (hc : c ∈ db.cards) :
    db.cardWithKey? c.canonicalName = some c.id := by
  cases hkey : db.cardWithKey? c.canonicalName with
  | none => exact absurd rfl (cardWithKey?_eq_none_iff.mp hkey c hc)
  | some id =>
    obtain ⟨d, hd, rfl, hsame⟩ := cardWithKey?_mem hkey
    rw [List.inj_on_of_nodup_map hv.cardsOnce hd hc hsame]

theorem findCard_mem {name : String} {id : CardId} (h : db.findCard name = some id) :
    ∃ c ∈ db.cards, c.id = id := by
  have hkey : ∃ key, db.cardWithKey? key = some id := by
    unfold findCard at h
    simp only at h
    split at h
    · rename_i hkey
      exact ⟨_, hkey.trans h⟩
    · split at h
      · rename_i hkey
        exact ⟨_, hkey.trans h⟩
      · exact ⟨_, h⟩
  obtain ⟨key, hkey⟩ := hkey
  obtain ⟨c, hc, hid, _⟩ := cardWithKey?_mem hkey
  exact ⟨c, hc, hid⟩

theorem CatalogValid.hasCard (hv : db.CatalogValid) {c : Card} (hc : c ∈ db.cards) :
    db.HasCard c.id :=
  hv.cards.leads hc

theorem CatalogValid.hasCard_findCard (hv : db.CatalogValid) {name : String} {id : CardId}
    (h : db.findCard name = some id) : db.HasCard id := by
  obtain ⟨c, hc, rfl⟩ := findCard_mem h
  exact hv.hasCard hc

theorem CatalogValid.hasEntry_findLookup (hv : db.CatalogValid) {kind : LookupKind}
    {name : String} {id : LookupId} (h : db.findLookup kind name = some id) :
    db.HasEntry kind id :=
  (hv.lookups kind).leads _ id h

/-- Names are found in the catalog side only. -/
theorem SameCatalog.findCard (h : SameCatalog db db') (name : String) :
    db'.findCard name = db.findCard name := by
  simp only [Database.findCard, cardWithKey?, h.cards]

theorem SameCatalog.findLookup (h : SameCatalog db db') (kind : LookupKind) (name : String) :
    db'.findLookup kind name = db.findLookup kind name := by
  rw [Database.findLookup, Database.findLookup, h.lookupTable]

end CardBinder.Database
