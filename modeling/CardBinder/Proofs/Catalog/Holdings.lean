import CardBinder.Proofs.Catalog.Load

/-! Filling a database from a catalog neither reads nor changes printings, card sets and copies. -/

namespace CardBinder.Database
variable {db db' : Database}

/-- A database with everything besides the catalog from another one. -/
def withHoldings (db src : Database) : Database :=
  { db with
    printings := src.printings
    cardSets := src.cardSets
    copies := src.copies
    nextCardSetId := src.nextCardSetId
    nextCopyId := src.nextCopyId
    generation := src.generation }

/-! Each step of filling a database does the same whatever the holdings are. -/

theorem addLookup_withHoldings (db src : Database) (kind : LookupKind) (name : String)
    (other : Option String) :
    (db.withHoldings src).addLookup kind name other =
      ((db.addLookup kind name other).1.withHoldings src, (db.addLookup kind name other).2) := rfl

theorem addDisciplinePair_withHoldings (db src : Database) (discipline : LookupId)
    (level : DisciplineLevel) :
    (db.withHoldings src).addDisciplinePair discipline level =
      ((db.addDisciplinePair discipline level).1.withHoldings src,
        (db.addDisciplinePair discipline level).2) := by
  have hfind : (db.withHoldings src).findDisciplinePair discipline level =
      db.findDisciplinePair discipline level := rfl
  unfold addDisciplinePair
  rw [hfind]
  split <;> rfl

theorem addRarityPair_withHoldings (db src : Database) (expansion rarity : LookupId) :
    (db.withHoldings src).addRarityPair expansion rarity =
      ((db.addRarityPair expansion rarity).1.withHoldings src,
        (db.addRarityPair expansion rarity).2) := by
  have hfind : (db.withHoldings src).findRarityPair expansion rarity =
      db.findRarityPair expansion rarity := rfl
  unfold addRarityPair
  rw [hfind]
  split <;> rfl

theorem link_withHoldings (db src : Database) (card : CardId) (r : Relation) (n : Nat) :
    (db.withHoldings src).link card r n = (db.link card r n).withHoldings src := rfl

theorem linkName_withHoldings (card : CardId) (r : Relation) (kind : LookupKind)
    (db src : Database) (name : String) :
    linkName card r kind (db.withHoldings src) name =
      (linkName card r kind db name).withHoldings src := by
  simp only [linkName, addLookup_withHoldings, link_withHoldings]

theorem linkDiscipline_withHoldings (card : CardId) (db src : Database) (d : DisciplineRecord) :
    linkDiscipline card (db.withHoldings src) d = (linkDiscipline card db d).withHoldings src := by
  simp only [linkDiscipline, addLookup_withHoldings, addDisciplinePair_withHoldings,
    link_withHoldings]

theorem linkRarity_withHoldings (card : CardId) (db src : Database) (x : RarityRecord) :
    linkRarity card (db.withHoldings src) x = (linkRarity card db x).withHoldings src := by
  simp only [linkRarity, addLookup_withHoldings, addRarityPair_withHoldings, link_withHoldings]

theorem foldl_withHoldings {β : Type} {f : Database → β → Database} {src : Database}
    (hf : ∀ db b, f (db.withHoldings src) b = (f db b).withHoldings src) (bs : List β)
    (db : Database) : bs.foldl f (db.withHoldings src) = (bs.foldl f db).withHoldings src := by
  induction bs generalizing db with
  | nil => rfl
  | cons b bs ih => rw [List.foldl_cons, List.foldl_cons, hf, ih]

theorem linkRecord_withHoldings (db src : Database) (card : CardId) (c : CardRecord) :
    (db.withHoldings src).linkRecord card c = (db.linkRecord card c).withHoldings src := by
  simp only [linkRecord]
  rw [foldl_withHoldings fun db x =>
      foldl_withHoldings (linkName_withHoldings card x.1 x.2.1 · src) x.2.2 db,
    foldl_withHoldings (linkDiscipline_withHoldings card · src),
    foldl_withHoldings (linkRarity_withHoldings card · src)]

theorem addCard_withHoldings (db src : Database) (c : CardRecord) :
    (db.withHoldings src).addCard c =
      (db.addCard c).map fun added => (added.1.withHoldings src, added.2) := by
  have hpush : (db.withHoldings src).pushCard (cardOfRecord c) =
      (db.pushCard (cardOfRecord c)).map fun pushed => (pushed.1.withHoldings src, pushed.2) := by
    have hkey : (db.withHoldings src).cardWithKey? (cardOfRecord c).canonicalName =
        db.cardWithKey? (cardOfRecord c).canonicalName := rfl
    unfold pushCard
    rw [hkey]
    split <;> rfl
  unfold addCard
  rw [hpush]
  cases db.pushCard (cardOfRecord c) with
  | error failure => rfl
  | ok pushed =>
    have hlink := linkRecord_withHoldings pushed.1 src pushed.2 c
    exact congrArg (fun db => Except.ok (db, pushed.2)) hlink

theorem addCards_withHoldings (db src : Database) (added : Nat) (cs : List CardRecord) :
    (db.withHoldings src).addCards added cs =
      ((db.addCards added cs).1.withHoldings src, (db.addCards added cs).2) := by
  induction cs generalizing db added with
  | nil => rfl
  | cons c cs ih =>
    rw [addCards, addCards, addCard_withHoldings]
    cases db.addCard c with
    | error failure => rfl
    | ok pushed => exact ih pushed.1 (added + 1)

theorem loadCatalog_withHoldings (db src : Database) (catalog : Catalog) :
    (db.withHoldings src).loadCatalog catalog =
      ((db.loadCatalog catalog).1.withHoldings src, (db.loadCatalog catalog).2) := by
  have hlookups : catalog.lookups.foldl addLookupRecord (db.withHoldings src) =
      (catalog.lookups.foldl addLookupRecord db).withHoldings src :=
    foldl_withHoldings (fun _ _ => rfl) catalog.lookups db
  rw [loadCatalog, hlookups]
  exact addCards_withHoldings _ src 0 catalog.cards

theorem withHoldings_self (db : Database) : db.withHoldings db = db := rfl

/-- Everything besides the catalog: printings, card sets, copies and their counters. -/
structure SameHoldings (db db' : Database) : Prop where
  printings : db'.printings = db.printings
  cardSets : db'.cardSets = db.cardSets
  copies : db'.copies = db.copies
  nextCardSetId : db'.nextCardSetId = db.nextCardSetId
  nextCopyId : db'.nextCopyId = db.nextCopyId
  generation : db'.generation = db.generation

theorem sameHoldings_withHoldings (db src : Database) : SameHoldings src (db.withHoldings src) :=
  ⟨rfl, rfl, rfl, rfl, rfl, rfl⟩

theorem sameHoldings_loadCatalog (db : Database) (catalog : Catalog) :
    SameHoldings db (db.loadCatalog catalog).1 := by
  have h := loadCatalog_withHoldings db db catalog
  rw [withHoldings_self] at h
  rw [h]
  exact sameHoldings_withHoldings _ db

/-- A database once its catalog is replaced, before copies are put back. -/
def refilled (db : Database) (catalog : Catalog) : Database :=
  (db.resetCatalog.loadCatalog catalog).1

/-- What is put into an emptied catalog is what a new database is filled with. -/
theorem loadCatalog_resetCatalog (db : Database) (catalog : Catalog) :
    db.resetCatalog.loadCatalog catalog =
      ((empty.loadCatalog catalog).1.withHoldings db.resetCatalog,
        (empty.loadCatalog catalog).2) :=
  loadCatalog_withHoldings empty db.resetCatalog catalog

theorem sameHoldings_refilled (db : Database) (catalog : Catalog) :
    SameHoldings db.resetCatalog (db.refilled catalog) :=
  sameHoldings_loadCatalog db.resetCatalog catalog

theorem catalogValid_refilled (db : Database) (catalog : Catalog) :
    (db.refilled catalog).CatalogValid := by
  have hreset : db.resetCatalog.CatalogValid := { catalogValid_empty with }
  exact hreset.loadCatalog catalog

end CardBinder.Database
