import CardBinder.Catalog.Load
import CardBinder.Database.Sets

/-! What finds cards, printings and links without going through their rows: kept up to date as rows
come in, never stored, and made anew when a database is loaded. -/

namespace CardBinder

/-- A link, filed by what it leads to. -/
structure BackLink where
  target : Nat
  card : CardId
  deriving DecidableEq, Repr, Inhabited

/-- By what they lead to, then by card. -/
instance : Ord BackLink := ⟨compareLex (compareOn BackLink.target) (compareOn BackLink.card)⟩

/-- The links of one relation the other way round, in ascending order and each once. -/
structure BackTable where
  links : List BackLink
  deriving DecidableEq, Repr, Inhabited

namespace BackTable

def empty : BackTable := ⟨[]⟩

def insert (t : BackTable) (card : CardId) (target : Nat) : BackTable :=
  ⟨LinkTable.insertInto ⟨target, card⟩ t.links⟩

def ofLinks (ls : List Link) : BackTable :=
  ls.foldl (fun t l => t.insert l.card l.target) empty

/-- The cards linked to a target, ascending. -/
def cards (t : BackTable) (target : Nat) : List CardId :=
  (t.links.filter (·.target == target)).map (·.card)

end BackTable

/-- Finds rows by what is in them; the first match counts. -/
structure Index where
  cards : List (String × CardId)
  printings : List ((CardId × Option LookupId) × PrintingId)
  backLinks : Vector BackTable 11
  deriving DecidableEq, Repr

namespace Index

def empty : Index where
  cards := []
  printings := []
  backLinks := Vector.replicate 11 BackTable.empty

instance : Inhabited Index := ⟨empty⟩

/-- The index of the rows as they stand; of several under one key the last counts. -/
def ofRows (db : Database) : Index where
  cards := (db.cards.map fun c => (c.canonicalName, c.id)).reverse
  printings := (db.printings.map fun p => ((p.card, p.expansion), p.id)).reverse
  backLinks := db.relations.map fun t => .ofLinks t.links

def backTable (i : Index) (r : Relation) : BackTable :=
  getElem i.backLinks r.index.val r.index_lt

def setBackTable (i : Index) (r : Relation) (t : BackTable) : Index :=
  { i with backLinks := i.backLinks.set r.index t r.index_lt }

end Index

/-- A database together with the index of its rows. -/
structure IndexedDatabase where
  tables : Database
  index : Index
  deriving DecidableEq, Repr, Inhabited

namespace IndexedDatabase

/-- A database whose index is made anew, as after loading. -/
def ofTables (db : Database) : IndexedDatabase := ⟨db, .ofRows db⟩

def empty : IndexedDatabase := ofTables .empty

/-! Lookup entries and pairs have no part in the index. -/

def addLookup (x : IndexedDatabase) (kind : LookupKind) (name : String)
    (otherName : Option String) : IndexedDatabase × LookupId :=
  let (tables, id) := x.tables.addLookup kind name otherName
  ({ x with tables }, id)

def addDisciplinePair (x : IndexedDatabase) (discipline : LookupId) (level : DisciplineLevel) :
    IndexedDatabase × PairId :=
  let (tables, id) := x.tables.addDisciplinePair discipline level
  ({ x with tables }, id)

def addRarityPair (x : IndexedDatabase) (expansion rarity : LookupId) : IndexedDatabase × PairId :=
  let (tables, id) := x.tables.addRarityPair expansion rarity
  ({ x with tables }, id)

/-! Cards -/

def cardWithKey? (x : IndexedDatabase) (key : String) : Option CardId :=
  x.index.cards.lookup key

/-- The card of a name: by its key, else with an article moved to the front, else to the back. -/
def findCard (x : IndexedDatabase) (name : String) : Option CardId :=
  let key := canonicalName name
  match x.cardWithKey? key with
  | some id => some id
  | none =>
    match x.cardWithKey? (articleToFront key) with
    | some id => some id
    | none => x.cardWithKey? (articleToBack key)

/-- A new row for a card whose key is free, filed under that key. -/
def pushCard (x : IndexedDatabase) (c : Card) : Outcome (IndexedDatabase × CardId) :=
  match x.cardWithKey? c.canonicalName with
  | some _ => .error (.duplicateCard c.name)
  | none =>
    let id : CardId := .ofPlace x.tables.cards.length
    .ok (⟨{ x.tables with cards := x.tables.cards ++ [{ c with id }] },
      { x.index with cards := (c.canonicalName, id) :: x.index.cards }⟩, id)

/-! Links -/

/-- Links a card, both ways. -/
def link (x : IndexedDatabase) (card : CardId) (r : Relation) (target : Nat) : IndexedDatabase :=
  ⟨x.tables.link card r target,
    x.index.setBackTable r ((x.index.backTable r).insert card target)⟩

def forward (x : IndexedDatabase) (r : Relation) (card : CardId) : List Nat :=
  (x.tables.relation r).forward card

def reverse (x : IndexedDatabase) (r : Relation) (target : Nat) : List CardId :=
  (x.index.backTable r).cards target

/-! Printings -/

def findPrinting (x : IndexedDatabase) (card : CardId) (expansion : Option LookupId) :
    Option PrintingId :=
  x.index.printings.lookup (card, expansion)

/-- The row of a printing, made and filed when needed. -/
def printingFor (x : IndexedDatabase) (card : CardId) (expansion : Option LookupId) :
    IndexedDatabase × PrintingId :=
  match x.findPrinting card expansion with
  | some id => (x, id)
  | none =>
    let id : PrintingId := .ofPlace x.tables.printings.length
    (⟨{ x.tables with printings := x.tables.printings ++ [⟨id, card, expansion⟩] },
      { x.index with printings := ((card, expansion), id) :: x.index.printings }⟩, id)

/-! Catalogs -/

def linkName (card : CardId) (r : Relation) (kind : LookupKind) (x : IndexedDatabase)
    (name : String) : IndexedDatabase :=
  let (x, target) := x.addLookup kind name none
  x.link card r target.val

def linkDiscipline (card : CardId) (x : IndexedDatabase) (d : DisciplineRecord) :
    IndexedDatabase :=
  let (x, discipline) := x.addLookup .discipline d.name none
  let (x, pair) := x.addDisciplinePair discipline d.level
  x.link card .discipline pair.val

def linkRarity (card : CardId) (x : IndexedDatabase) (r : RarityRecord) : IndexedDatabase :=
  let (x, expansion) := x.addLookup .expansion r.expansion none
  let (x, rarity) := x.addLookup .rarity r.rarity none
  let (x, pair) := x.addRarityPair expansion rarity
  x.link card .rarity pair.val

def linkRecord (x : IndexedDatabase) (card : CardId) (c : CardRecord) : IndexedDatabase :=
  let x := c.names.foldl (fun x (r, kind, names) => names.foldl (linkName card r kind) x) x
  let x := c.disciplines.foldl (linkDiscipline card) x
  c.rarities.foldl (linkRarity card) x

def addCard (x : IndexedDatabase) (c : CardRecord) : Outcome (IndexedDatabase × CardId) := do
  let (x, id) ← x.pushCard (Database.cardOfRecord c)
  return (x.linkRecord id c, id)

/-- Adds cards up to the first that is refused; `added` have been before. -/
def addCards (x : IndexedDatabase) (added : Nat) :
    List CardRecord → IndexedDatabase × Outcome Nat
  | [] => (x, .ok added)
  | c :: cs =>
    match x.addCard c with
    | .ok (x, _) => addCards x (added + 1) cs
    | .error failure => (x, .error failure)

def loadCatalog (x : IndexedDatabase) (catalog : Catalog) : IndexedDatabase × Outcome Nat :=
  let addRecord (x : IndexedDatabase) (r : LookupRecord) :=
    (x.addLookup r.kind r.name r.otherName).1
  (catalog.lookups.foldl addRecord x).addCards 0 catalog.cards

/-- Empties the catalog and the card sets; nothing is left to be found. -/
def resetCatalog (x : IndexedDatabase) : IndexedDatabase :=
  ⟨x.tables.resetCatalog, .empty⟩

end IndexedDatabase

/-! Changes -/

/-- A change to the rows of a database. -/
inductive RowChange where
  | addLookup (kind : LookupKind) (name : String) (otherName : Option String)
  | addCard (c : CardRecord)
  | loadCatalog (catalog : Catalog)
  | link (card : CardId) (r : Relation) (target : Nat)
  | printingFor (card : CardId) (expansion : Option LookupId)
  | insertCardSet (d : CardSetDraft)
  | addCopy (set : CardSetId) (printing : PrintingId)
  | removeCopies (set : CardSetId) (printing : PrintingId) (n : Nat)
  | removeCardSet (set : CardSetId)
  | resetCatalog

/-- The database after a change. One that is refused leaves what was done before the refusal, and one that
there is no number for leaves everything. -/
def Database.apply (db : Database) : RowChange → Database
  | .addLookup kind name otherName => (db.addLookup kind name otherName).1
  | .addCard c =>
    match db.addCard c with
    | .ok (db, _) => db
    | .error _ => db
  | .loadCatalog catalog => (db.loadCatalog catalog).1
  | .link card r target => db.link card r target
  | .printingFor card expansion => (db.printingFor card expansion).1
  | .insertCardSet d =>
    match db.insertCardSet d with
    | .ok (db, _) => db
    | .error _ => db
  | .addCopy set printing =>
    match (db.addCopy set printing).1.checkCopyIds with
    | .ok () => (db.addCopy set printing).1
    | .error _ => db
  | .removeCopies set printing n => (db.removeCopies set printing n).1
  | .removeCardSet set => ((db.removeCardSet set).map (·.1)).getD db
  | .resetCatalog =>
    match checkCounter generationBound (db.generation + 1) with
    | .ok () => db.resetCatalog
    | .error _ => db

/-- Card sets and copies are not indexed, nor are the names of lookup entries here. -/
def IndexedDatabase.apply (x : IndexedDatabase) : RowChange → IndexedDatabase
  | .addCard c =>
    match x.addCard c with
    | .ok (x, _) => x
    | .error _ => x
  | .loadCatalog catalog => (x.loadCatalog catalog).1
  | .link card r target => x.link card r target
  | .printingFor card expansion => (x.printingFor card expansion).1
  | .resetCatalog =>
    match checkCounter generationBound (x.tables.generation + 1) with
    | .ok () => x.resetCatalog
    | .error _ => x
  | change => { x with tables := x.tables.apply change }

/-- The answers that an index is for. -/
structure Answers where
  findCard : String → Option CardId
  findPrinting : CardId → Option LookupId → Option PrintingId
  related : CardId → Relation → List Nat
  hasRelation : CardId → Relation → Nat → Bool
  forward : Relation → CardId → List Nat
  reverse : Relation → Nat → List CardId

/-- What is answered by going through the rows. -/
def Database.answers (db : Database) : Answers where
  findCard := db.findCard
  findPrinting := db.findPrinting
  related := db.related
  hasRelation := db.hasRelation
  forward r := (db.relation r).forward
  reverse r := (db.relation r).reverse

/-- What is answered by the index. -/
def IndexedDatabase.answers (x : IndexedDatabase) : Answers where
  findCard := x.findCard
  findPrinting := x.findPrinting
  related card r := x.forward r card
  hasRelation := x.tables.hasRelation
  forward := x.forward
  reverse := x.reverse

end CardBinder
