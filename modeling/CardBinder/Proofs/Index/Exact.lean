import CardBinder.Proofs.Database.Sets
import CardBinder.Proofs.Index.Parts

/-! An index finds exactly the rows of its database, whether it was kept up to date or made anew. -/

namespace CardBinder

namespace Database

/-- The rows that an index is of are the same. -/
structure SameIndexed (db db' : Database) : Prop where
  cards : db'.cards = db.cards
  printings : db'.printings = db.printings
  relations : db'.relations = db.relations

theorem sameIndexed_addDisciplinePair (db : Database) (discipline : LookupId)
    (level : DisciplineLevel) :
    db.SameIndexed (db.addDisciplinePair discipline level).1 := by
  rw [addDisciplinePair]
  split <;> exact ⟨rfl, rfl, rfl⟩

theorem sameIndexed_addRarityPair (db : Database) (expansion rarity : LookupId) :
    db.SameIndexed (db.addRarityPair expansion rarity).1 := by
  rw [addRarityPair]
  split <;> exact ⟨rfl, rfl, rfl⟩

theorem sameIndexed_insertCardSet (db : Database) (d : CardSetDraft) :
    db.SameIndexed (db.apply (.insertCardSet d)) := by
  simp only [apply]
  split
  · rename_i hd
    obtain ⟨_, _, _, _, rfl⟩ := insertCardSet_ok hd
    exact ⟨rfl, rfl, rfl⟩
  · exact ⟨rfl, rfl, rfl⟩

theorem sameIndexed_addCopy (db : Database) (set : CardSetId) (printing : PrintingId) :
    db.SameIndexed (db.apply (.addCopy set printing)) := by
  simp only [apply]
  split <;> exact ⟨rfl, rfl, rfl⟩

theorem sameIndexed_removeCardSet (db : Database) (set : CardSetId) :
    db.SameIndexed (db.apply (.removeCardSet set)) := by
  simp only [apply]
  cases hd : db.removeCardSet set with
  | none => exact ⟨rfl, rfl, rfl⟩
  | some removed =>
    obtain ⟨_, _, _, hdb⟩ := removeCardSet_some hd
    rw [Option.map_some, Option.getD_some, hdb]
    exact ⟨rfl, rfl, rfl⟩

end Database

namespace Index
variable {i : Index} {db db' : Database}

/-- The index holds exactly the keys of the cards and of the printings, and the links the other way
round. -/
structure Exact (i : Index) (db : Database) : Prop where
  cards : Files i.cards Card.canonicalName Card.id db.cards
  printings : Files i.printings (fun p => (p.card, p.expansion)) Printing.id db.printings
  transposes : ∀ r, (i.backTable r).Transposes (db.relation r)
  ascend : ∀ r, (i.backTable r).Sorted

theorem backTable_set (i : Index) (r r' : Relation) (t : BackTable) :
    (i.setBackTable r t).backTable r' = if r = r' then t else i.backTable r' := by
  simp only [backTable, setBackTable, Vector.getElem_set, ← Fin.ext_iff,
    Database.relationIndex_injective.eq_iff]

theorem backTable_empty (r : Relation) : empty.backTable r = .empty := by
  simp [backTable, empty]

theorem backTable_ofRows (db : Database) (r : Relation) :
    (ofRows db).backTable r = .ofLinks (db.relation r).links := by
  simp [backTable, ofRows, Database.relation]

/-- Changes elsewhere leave the index exact. -/
theorem Exact.of_same (h : i.Exact db) (hsame : db.SameIndexed db') : i.Exact db' where
  cards := hsame.cards ▸ h.cards
  printings := hsame.printings ▸ h.printings
  transposes r := by
    rw [Database.relation, hsame.relations]
    exact h.transposes r
  ascend := h.ascend

theorem exact_empty (hcards : db.cards = []) (hprintings : db.printings = [])
    (hrelations : ∀ r, db.relation r = .empty) : empty.Exact db where
  cards := hcards ▸ files_nil
  printings := hprintings ▸ files_nil
  transposes r := by
    rw [backTable_empty, hrelations]
    exact BackTable.transposes_empty
  ascend r := by
    rw [backTable_empty]
    exact BackTable.sorted_empty

/-- An index that is made anew is exact when the one that was kept up to date is. -/
theorem Exact.anew (h : i.Exact db) (hsorted : ∀ r, (db.relation r).Sorted) :
    (ofRows db).Exact db where
  cards := h.cards.anew
  printings := h.printings.anew
  transposes r := by
    have hmade := BackTable.transposes_ofLinks (db.relation r).links
    rw [(hsorted r).ofLinks_links] at hmade
    rw [backTable_ofRows]
    exact hmade
  ascend r := by
    rw [backTable_ofRows]
    exact BackTable.sorted_ofLinks _

end Index

namespace IndexedDatabase
variable {x : IndexedDatabase} {db : Database}

/-- The tables are those of `db`, and the index is exact. -/
structure Tracks (x : IndexedDatabase) (db : Database) : Prop where
  tables : x.tables = db
  exact : x.index.Exact db

theorem Tracks.addLookup (h : x.Tracks db) (kind : LookupKind) (name : String)
    (otherName : Option String) :
    (x.addLookup kind name otherName).1.Tracks (db.addLookup kind name otherName).1 ∧
      (x.addLookup kind name otherName).2 = (db.addLookup kind name otherName).2 := by
  obtain ⟨rfl, hexact⟩ := h
  exact ⟨⟨rfl, hexact.of_same ⟨rfl, rfl, rfl⟩⟩, rfl⟩

theorem Tracks.addDisciplinePair (h : x.Tracks db) (discipline : LookupId)
    (level : DisciplineLevel) :
    (x.addDisciplinePair discipline level).1.Tracks (db.addDisciplinePair discipline level).1 ∧
      (x.addDisciplinePair discipline level).2 = (db.addDisciplinePair discipline level).2 := by
  obtain ⟨rfl, hexact⟩ := h
  exact ⟨⟨rfl, hexact.of_same (x.tables.sameIndexed_addDisciplinePair discipline level)⟩, rfl⟩

theorem Tracks.addRarityPair (h : x.Tracks db) (expansion rarity : LookupId) :
    (x.addRarityPair expansion rarity).1.Tracks (db.addRarityPair expansion rarity).1 ∧
      (x.addRarityPair expansion rarity).2 = (db.addRarityPair expansion rarity).2 := by
  obtain ⟨rfl, hexact⟩ := h
  exact ⟨⟨rfl, hexact.of_same (x.tables.sameIndexed_addRarityPair expansion rarity)⟩, rfl⟩

theorem Tracks.link (h : x.Tracks db) (card : CardId) (r : Relation) (target : Nat) :
    (x.link card r target).Tracks (db.link card r target) := by
  obtain ⟨rfl, hexact⟩ := h
  refine ⟨rfl, ⟨hexact.cards, hexact.printings, fun r' => ?_, fun r' => ?_⟩⟩
  · rw [Database.link, Database.relation_set]
    change ((x.index.setBackTable r _).backTable r').Transposes _
    rw [Index.backTable_set]
    split
    · exact (hexact.transposes r).insert card target
    · exact hexact.transposes r'
  · change ((x.index.setBackTable r _).backTable r').Sorted
    rw [Index.backTable_set]
    split
    · exact (hexact.ascend r).insert card target
    · exact hexact.ascend r'

theorem Tracks.cardWithKey?_eq (h : x.Tracks db) (key : String) :
    x.cardWithKey? key = db.cardWithKey? key :=
  h.exact.cards.lookup_eq key

theorem Tracks.findPrinting_eq (h : x.Tracks db) (card : CardId) (expansion : Option LookupId) :
    x.findPrinting card expansion = db.findPrinting card expansion :=
  h.exact.printings.lookup_eq (card, expansion)

/-- A card is refused for a key that is taken, else it is filed under its own. -/
theorem Tracks.pushCard (h : x.Tracks db) (c : Card) :
    (∃ failure, x.pushCard c = .error failure ∧ db.pushCard c = .error failure) ∨
      ∃ x' db' id, x.pushCard c = .ok (x', id) ∧ db.pushCard c = .ok (db', id) ∧
        x'.Tracks db' := by
  have hkey := h.cardWithKey?_eq c.canonicalName
  obtain ⟨rfl, hexact⟩ := h
  rw [IndexedDatabase.pushCard, Database.pushCard, ← hkey]
  cases hfound : x.cardWithKey? c.canonicalName with
  | some id => exact .inl ⟨_, rfl, rfl⟩
  | none =>
    have hnew : x.index.cards.lookup
        ({ c with id := .ofPlace x.tables.cards.length } : Card).canonicalName = none := hfound
    exact .inr ⟨_, _, _, rfl, rfl, rfl, hexact.cards.add hnew, hexact.printings,
      hexact.transposes, hexact.ascend⟩

theorem Tracks.printingFor (h : x.Tracks db) (card : CardId) (expansion : Option LookupId) :
    (x.printingFor card expansion).1.Tracks (db.printingFor card expansion).1 := by
  have hkey := h.findPrinting_eq card expansion
  obtain ⟨rfl, hexact⟩ := h
  rw [IndexedDatabase.printingFor, Database.printingFor, ← hkey]
  cases hfound : x.findPrinting card expansion with
  | some id => exact ⟨rfl, hexact⟩
  | none =>
    let row : Printing := ⟨.ofPlace x.tables.printings.length, card, expansion⟩
    have hnew : x.index.printings.lookup (row.card, row.expansion) = none := hfound
    exact ⟨rfl, hexact.cards, hexact.printings.add hnew, hexact.transposes, hexact.ascend⟩

/-! Catalogs -/

theorem Tracks.foldl {β : Type} {f : IndexedDatabase → β → IndexedDatabase}
    {g : Database → β → Database} (hstep : ∀ x db b, x.Tracks db → (f x b).Tracks (g db b))
    (h : x.Tracks db) (bs : List β) : (bs.foldl f x).Tracks (bs.foldl g db) := by
  induction bs generalizing x db with
  | nil => exact h
  | cons b bs ih => exact ih (hstep x db b h)

theorem Tracks.linkName (h : x.Tracks db) (card : CardId) (r : Relation) (kind : LookupKind)
    (name : String) : (linkName card r kind x name).Tracks (db.linkName card r kind name) := by
  obtain ⟨hnamed, hid⟩ := h.addLookup kind name none
  simp only [IndexedDatabase.linkName, hid]
  exact hnamed.link card r _

theorem Tracks.linkDiscipline (h : x.Tracks db) (card : CardId) (d : DisciplineRecord) :
    (linkDiscipline card x d).Tracks (db.linkDiscipline card d) := by
  obtain ⟨hnamed, hid⟩ := h.addLookup .discipline d.name none
  obtain ⟨hpaired, hpair⟩ :=
    hnamed.addDisciplinePair (db.addLookup .discipline d.name none).2 d.level
  simp only [IndexedDatabase.linkDiscipline, hid, hpair]
  exact hpaired.link card .discipline _

theorem Tracks.linkRarity (h : x.Tracks db) (card : CardId) (r : RarityRecord) :
    (linkRarity card x r).Tracks (db.linkRarity card r) := by
  obtain ⟨hexpansion, hid⟩ := h.addLookup .expansion r.expansion none
  obtain ⟨hrarity, hid'⟩ := hexpansion.addLookup .rarity r.rarity none
  obtain ⟨hpaired, hpair⟩ := hrarity.addRarityPair (db.addLookup .expansion r.expansion none).2
    ((db.addLookup .expansion r.expansion none).1.addLookup .rarity r.rarity none).2
  simp only [IndexedDatabase.linkRarity, hid, hid', hpair]
  exact hpaired.link card .rarity _

theorem Tracks.linkRecord (h : x.Tracks db) (card : CardId) (c : CardRecord) :
    (x.linkRecord card c).Tracks (db.linkRecord card c) := by
  have hnames : ∀ x db (n : Relation × LookupKind × List String), x.Tracks db →
      (n.2.2.foldl (IndexedDatabase.linkName card n.1 n.2.1) x).Tracks
        (n.2.2.foldl (Database.linkName card n.1 n.2.1) db) :=
    fun x db n h => h.foldl (fun _ _ name h => h.linkName card n.1 n.2.1 name) n.2.2
  have hlinked := h.foldl hnames c.names
  have hpaired := hlinked.foldl (fun _ _ d h => h.linkDiscipline card d) c.disciplines
  exact hpaired.foldl (fun _ _ r h => h.linkRarity card r) c.rarities

theorem Tracks.addCard (h : x.Tracks db) (c : CardRecord) :
    (∃ failure, x.addCard c = .error failure ∧ db.addCard c = .error failure) ∨
      ∃ x' db' id, x.addCard c = .ok (x', id) ∧ db.addCard c = .ok (db', id) ∧ x'.Tracks db' := by
  rw [IndexedDatabase.addCard, Database.addCard]
  rcases h.pushCard (Database.cardOfRecord c) with ⟨failure, hx, hdb⟩ | ⟨x', db', id, hx, hdb, h'⟩
  · rw [hx, hdb]
    exact .inl ⟨failure, rfl, rfl⟩
  · rw [hx, hdb]
    exact .inr ⟨_, _, id, rfl, rfl, h'.linkRecord id c⟩

theorem Tracks.addCards (h : x.Tracks db) (added : Nat) (cs : List CardRecord) :
    (x.addCards added cs).1.Tracks (db.addCards added cs).1 ∧
      (x.addCards added cs).2 = (db.addCards added cs).2 := by
  induction cs generalizing x db added with
  | nil => exact ⟨h, rfl⟩
  | cons c cs ih =>
    rw [IndexedDatabase.addCards, Database.addCards]
    rcases h.addCard c with ⟨failure, hx, hdb⟩ | ⟨x', db', id, hx, hdb, h'⟩
    · rw [hx, hdb]
      exact ⟨h, rfl⟩
    · rw [hx, hdb]
      exact ih h' (added + 1)

theorem Tracks.loadCatalog (h : x.Tracks db) (catalog : Catalog) :
    (x.loadCatalog catalog).1.Tracks (db.loadCatalog catalog).1 ∧
      (x.loadCatalog catalog).2 = (db.loadCatalog catalog).2 :=
  (h.foldl (fun _ _ r h => (h.addLookup r.kind r.name r.otherName).1) catalog.lookups).addCards 0
    catalog.cards

theorem Tracks.resetCatalog (h : x.Tracks db) : x.resetCatalog.Tracks db.resetCatalog := by
  obtain ⟨rfl, _⟩ := h
  refine ⟨rfl, Index.exact_empty rfl rfl fun r => ?_⟩
  simp [Database.relation, Database.resetCatalog, Database.empty]

/-! Every change -/

theorem tracks_empty : empty.Tracks .empty := by
  have hrelations : ∀ r, Database.empty.relation r = .empty := by
    simp [Database.relation, Database.empty]
  refine ⟨rfl, (Index.exact_empty rfl rfl hrelations).anew fun r => ?_⟩
  rw [hrelations]
  exact LinkTable.sorted_empty

theorem Tracks.apply (h : x.Tracks db) (change : RowChange) :
    (x.apply change).Tracks (db.apply change) := by
  cases change with
  | addLookup kind name otherName => exact (h.addLookup kind name otherName).1
  | addCard c =>
    rw [IndexedDatabase.apply, Database.apply]
    rcases h.addCard c with ⟨failure, hx, hdb⟩ | ⟨x', db', id, hx, hdb, h'⟩
    · rw [hx, hdb]
      exact h
    · rw [hx, hdb]
      exact h'
  | loadCatalog catalog => exact (h.loadCatalog catalog).1
  | link card r target => exact h.link card r target
  | printingFor card expansion => exact h.printingFor card expansion
  | insertCardSet d =>
    obtain ⟨rfl, hexact⟩ := h
    exact ⟨rfl, hexact.of_same (x.tables.sameIndexed_insertCardSet d)⟩
  | addCopy set printing =>
    obtain ⟨rfl, hexact⟩ := h
    exact ⟨rfl, hexact.of_same (x.tables.sameIndexed_addCopy set printing)⟩
  | removeCopies set printing n =>
    obtain ⟨rfl, hexact⟩ := h
    exact ⟨rfl, hexact.of_same ⟨rfl, rfl, rfl⟩⟩
  | removeCardSet set =>
    obtain ⟨rfl, hexact⟩ := h
    exact ⟨rfl, hexact.of_same (x.tables.sameIndexed_removeCardSet set)⟩
  | resetCatalog =>
    simp only [IndexedDatabase.apply, Database.apply, h.tables]
    split
    · exact h.resetCatalog
    · exact h

theorem Tracks.run (h : x.Tracks db) (changes : List RowChange) :
    (changes.foldl IndexedDatabase.apply x).Tracks (changes.foldl Database.apply db) :=
  h.foldl (fun _ _ change h => h.apply change) changes

end IndexedDatabase
end CardBinder
