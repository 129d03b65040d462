import CardBinder.Database.Basic

/-! Numeric features of cards, for tables. A card without a feature has zero there, a variable cost is minus one. -/

namespace CardBinder

inductive Feature where
  | group
  | capacity
  | cost (costType : CostType)
  | advanced
  | printings
  | discipline (id : LookupId)
  | rarity (id : LookupId)
  | expansion (id : LookupId)
  | clan (id : LookupId)
  | cardType (id : LookupId)
  deriving DecidableEq, Repr

namespace Feature

def flag (b : Bool) : Int := if b then 1 else 0

/-- A card has a rarity pair with the given property. -/
def hasPair (db : Database) (card : CardId) (p : RarityPair → Bool) : Bool :=
  (db.related card .rarity).any fun id => (db.rarityPair? ⟨id⟩).any p

def value (db : Database) (card : CardId) : Feature → Int
  | .group => ((db.card? card).bind (·.group)).getD 0
  | .capacity => ((db.card? card).bind (·.capacity)).getD 0
  | .cost t =>
    match db.card? card with
    | some c => if c.costType = some t then c.cost.getD 0 else 0
    | none => 0
  | .advanced => flag ((db.card? card).any (·.advanced))
  | .printings => db.printings.countP (·.card == card)
  | .discipline id =>
    flag (db.disciplinePairs.any fun p =>
      p.discipline == id && db.hasRelation card .discipline p.id.val)
  | .rarity id => flag (hasPair db card (·.rarity == id))
  | .expansion id => flag (hasPair db card (·.expansion == id))
  | .clan id => flag (db.hasRelation card .clan id.val)
  | .cardType id => flag (db.hasRelation card .cardType id.val)

end Feature

/-- A named column of a table of features. -/
structure Column where
  name : String
  feature : Feature
  deriving DecidableEq, Repr

namespace Database

def entryColumns (db : Database) (kind : LookupKind) (title : String)
    (feature : LookupId → Feature) : List Column :=
  (db.lookupEntries kind).map fun e => ⟨title ++ ": " ++ e.name, feature e.id⟩

/-- Every column, by the tables they come from; of two with one name the later counts. -/
def allColumns (db : Database) : List Column :=
  [⟨"group", .group⟩, ⟨"capacity", .capacity⟩, ⟨"pool cost", .cost .pool⟩,
    ⟨"blood cost", .cost .blood⟩, ⟨"conviction cost", .cost .conviction⟩,
    ⟨"advanced", .advanced⟩, ⟨"physical card count", .printings⟩] ++
  db.entryColumns .discipline "discipline" .discipline ++
  db.entryColumns .rarity "rarity" .rarity ++
  db.entryColumns .expansion "expansion" .expansion ++
  db.entryColumns .clan "clan" .clan ++
  db.entryColumns .cardType "card type" .cardType

/-- The names of all columns, sorted, each once. -/
def columnNames (db : Database) : List String :=
  ((db.allColumns.map (·.name)).eraseDups).mergeSort fun a b => decide (a ≤ b)

def column (db : Database) (name : String) : Outcome Column :=
  match db.allColumns.reverse.find? (·.name == name) with
  | some c => .ok c
  | none => .error (.unknownColumn name)

/-- One row for each card and in it one value for each column. -/
def featureRows (db : Database) (cards : List CardId) (columns : List String) :
    Outcome (List (List Int)) := do
  let columns ← columns.mapM db.column
  return cards.map fun card => columns.map fun c => c.feature.value db card

end Database
end CardBinder
