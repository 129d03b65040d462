import CardBinder.Card
import CardBinder.CardSet
import CardBinder.Failure
import CardBinder.Lookup.Table
import CardBinder.Relation

/-! All tables in one value, and the catalog side of it: lookup tables, pairs, cards, links and printings. -/

namespace CardBinder

structure Database where
  lookups : Vector LookupTable 12
  disciplinePairs : List DisciplinePair
  rarityPairs : List RarityPair
  cards : List Card
  relations : Vector LinkTable 11
  printings : List Printing
  cardSets : List CardSet
  copies : List Copy
  nextCardSetId : Nat
  nextCopyId : Nat
  /-- Raised whenever the catalog is replaced. -/
  generation : Nat
  deriving DecidableEq, Repr

/-- A counter that would go beyond its last number stops the work. -/
def checkCounter (bound next : Nat) : Outcome Unit :=
  if next < bound then .ok () else .error .outOfNumbers

theorem checkCounter_ok_iff {bound next : Nat} : checkCounter bound next = .ok () ↔ next < bound := by
  rw [checkCounter]
  split <;> simp_all

namespace Database

def empty : Database where
  lookups := Vector.replicate 12 LookupTable.empty
  disciplinePairs := []
  rarityPairs := []
  cards := []
  relations := Vector.replicate 11 LinkTable.empty
  printings := []
  cardSets := []
  copies := []
  nextCardSetId := 0
  nextCopyId := 0
  generation := 0

instance : Inhabited Database := ⟨empty⟩

/-! Lookup tables -/

def lookupTable (db : Database) (kind : LookupKind) : LookupTable :=
  db.lookups[kind.index]

def setLookupTable (db : Database) (kind : LookupKind) (t : LookupTable) : Database :=
  { db with lookups := db.lookups.set kind.index t }

def lookupEntries (db : Database) (kind : LookupKind) : List LookupEntry :=
  (db.lookupTable kind).entries

def addLookup (db : Database) (kind : LookupKind) (name : String) (otherName : Option String) :
    Database × LookupId :=
  let (t, id) := (db.lookupTable kind).getOrCreate name otherName
  (db.setLookupTable kind t, id)

def findLookup (db : Database) (kind : LookupKind) (name : String) : Option LookupId :=
  (db.lookupTable kind).find name

def resolve (db : Database) (kind : LookupKind) (name : String) : Outcome LookupId :=
  match db.findLookup kind name with
  | some id => .ok id
  | none => .error (.notFound (.entry kind) name)

def lookupName (db : Database) (kind : LookupKind) (id : LookupId) : Option String :=
  ((db.lookupTable kind).get? id).map (·.name)

/-! Pairs -/

def disciplinePair? (db : Database) (id : PairId) : Option DisciplinePair :=
  db.disciplinePairs[id.val]?

def findDisciplinePair (db : Database) (discipline : LookupId) (level : DisciplineLevel) :
    Option PairId :=
  (db.disciplinePairs.find? fun p => p.discipline == discipline && p.level == level).map (·.id)

def addDisciplinePair (db : Database) (discipline : LookupId) (level : DisciplineLevel) :
    Database × PairId :=
  match db.findDisciplinePair discipline level with
  | some id => (db, id)
  | none =>
    let id : PairId := .ofPlace db.disciplinePairs.length
    ({ db with disciplinePairs := db.disciplinePairs ++ [⟨id, discipline, level⟩] }, id)

def rarityPair? (db : Database) (id : PairId) : Option RarityPair :=
  db.rarityPairs[id.val]?

def findRarityPair (db : Database) (expansion rarity : LookupId) : Option PairId :=
  (db.rarityPairs.find? fun p => p.expansion == expansion && p.rarity == rarity).map (·.id)

def addRarityPair (db : Database) (expansion rarity : LookupId) : Database × PairId :=
  match db.findRarityPair expansion rarity with
  | some id => (db, id)
  | none =>
    let id : PairId := .ofPlace db.rarityPairs.length
    ({ db with rarityPairs := db.rarityPairs ++ [⟨id, expansion, rarity⟩] }, id)

/-! Cards -/

def card? (db : Database) (id : CardId) : Option Card :=
  db.cards[id.val]?

def cardName (db : Database) (id : CardId) : String :=
  match db.card? id with
  | some c => c.name
  | none => "<card " ++ toString id ++ ">"

/-- The card filed under a key; of several the last. -/
def cardWithKey? (db : Database) (key : String) : Option CardId :=
  (db.cards.reverse.find? (·.canonicalName == key)).map (·.id)

/-- The card of a name: by its key, else with an article moved to the front, else to the back. -/
def findCard (db : Database) (name : String) : Option CardId :=
  let key := canonicalName name
  match db.cardWithKey? key with
  | some id => some id
  | none =>
    match db.cardWithKey? (articleToFront key) with
    | some id => some id
    | none => db.cardWithKey? (articleToBack key)

def resolveCard (db : Database) (name : String) : Outcome CardId :=
  match db.findCard name with
  | some id => .ok id
  | none => .error (.notFound .card name)

/-- A new row for a card whose key is free. -/
def pushCard (db : Database) (c : Card) : Outcome (Database × CardId) :=
  match db.cardWithKey? c.canonicalName with
  | some _ => .error (.duplicateCard c.name)
  | none =>
    let id : CardId := .ofPlace db.cards.length
    .ok ({ db with cards := db.cards ++ [{ c with id }] }, id)

/-! Links -/

def relation (db : Database) (r : Relation) : LinkTable :=
  db.relations[r.index]

def setRelation (db : Database) (r : Relation) (t : LinkTable) : Database :=
  { db with relations := db.relations.set r.index t }

def link (db : Database) (card : CardId) (r : Relation) (target : Nat) : Database :=
  db.setRelation r ((db.relation r).insert card target)

def related (db : Database) (card : CardId) (r : Relation) : List Nat :=
  (db.relation r).forward card

/-- The names of the linked entries; pairs have none. -/
def relatedNames (db : Database) (card : CardId) (r : Relation) : List String :=
  match r.lookupKind? with
  | none => []
  | some kind => (db.related card r).filterMap fun id => db.lookupName kind ⟨id⟩

def hasRelation (db : Database) (card : CardId) (r : Relation) (target : Nat) : Bool :=
  (db.relation r).contains card target

/-! Printings -/

def printing? (db : Database) (id : PrintingId) : Option Printing :=
  db.printings[id.val]?

/-- The row of a printing; of several the last. -/
def findPrinting (db : Database) (card : CardId) (expansion : Option LookupId) :
    Option PrintingId :=
  (db.printings.reverse.find? fun p => p.card == card && p.expansion == expansion).map (·.id)

/-- The row of a printing, made when needed. -/
def printingFor (db : Database) (card : CardId) (expansion : Option LookupId) :
    Database × PrintingId :=
  match db.findPrinting card expansion with
  | some id => (db, id)
  | none =>
    let id : PrintingId := .ofPlace db.printings.length
    ({ db with printings := db.printings ++ [⟨id, card, expansion⟩] }, id)

def expansionName (db : Database) (expansion : Option LookupId) : Option String :=
  expansion.bind (db.lookupName .expansion)

/-- Empties the catalog and the card sets, and keeps the rows of the card sets. -/
def resetCatalog (db : Database) : Database :=
  { Database.empty with
    cardSets := db.cardSets
    nextCardSetId := db.nextCardSetId
    nextCopyId := db.nextCopyId
    generation := db.generation + 1 }

end Database
end CardBinder
