import CardBinder.Catalog.Record

/-! Filling a database from a catalog; lookup entries and pairs that cards name are made on first use. -/

namespace CardBinder.Database

/-- The row of a card record, before it has a number. -/
def cardOfRecord (c : CardRecord) : Card where
  id := ⟨0⟩
  canonicalName := canonicalName c.name
  name := Text.trim c.name
  text := c.text
  searchText := searchText c.text
  group := c.group
  capacity := c.capacity
  cost := c.cost
  costType := c.costType
  advanced := c.advanced
  life := c.life

def linkName (card : CardId) (r : Relation) (kind : LookupKind) (db : Database) (name : String) :
    Database :=
  let (db, target) := db.addLookup kind name none
  db.link card r target.val

def linkDiscipline (card : CardId) (db : Database) (d : DisciplineRecord) : Database :=
  let (db, discipline) := db.addLookup .discipline d.name none
  let (db, pair) := db.addDisciplinePair discipline d.level
  db.link card .discipline pair.val

def linkRarity (card : CardId) (db : Database) (r : RarityRecord) : Database :=
  let (db, expansion) := db.addLookup .expansion r.expansion none
  let (db, rarity) := db.addLookup .rarity r.rarity none
  let (db, pair) := db.addRarityPair expansion rarity
  db.link card .rarity pair.val

/-- Links a card to everything its record names. -/
def linkRecord (db : Database) (card : CardId) (c : CardRecord) : Database :=
  let db := c.names.foldl (fun db (r, kind, names) => names.foldl (linkName card r kind) db) db
  let db := c.disciplines.foldl (linkDiscipline card) db
  c.rarities.foldl (linkRarity card) db

/-- Adds a card and its links. -/
def addCard (db : Database) (c : CardRecord) : Outcome (Database × CardId) := do
  let (db, id) ← db.pushCard (cardOfRecord c)
  return (db.linkRecord id c, id)

/-- Adds cards up to the first that is refused; `added` have been before. -/
def addCards (db : Database) (added : Nat) : List CardRecord → Database × Outcome Nat
  | [] => (db, .ok added)
  | c :: cs =>
    match db.addCard c with
    | .ok (db, _) => addCards db (added + 1) cs
    | .error failure => (db, .error failure)

def addLookupRecord (db : Database) (r : LookupRecord) : Database :=
  (db.addLookup r.kind r.name r.otherName).1

/-- Adds a whole catalog and counts its cards; cards before a refused one stay. -/
def loadCatalog (db : Database) (catalog : Catalog) : Database × Outcome Nat :=
  (catalog.lookups.foldl addLookupRecord db).addCards 0 catalog.cards

def ofCatalog (catalog : Catalog) : Outcome Database :=
  match empty.loadCatalog catalog with
  | (db, .ok _) => .ok db
  | (_, .error failure) => .error failure

end CardBinder.Database
