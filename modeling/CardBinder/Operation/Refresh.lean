import CardBinder.Catalog.Load
import CardBinder.Report
import CardBinder.Store

/-! Replacing the catalog. The copies in card sets find their cards again by name, and their expansions. -/

namespace CardBinder

/-- A copy by the names of what it is. -/
structure SavedCopy where
  cardSet : CardSetId
  /-- The key of the card. -/
  card : String
  displayName : String
  expansion : Option String
  deriving DecidableEq, Repr

/-- Copies that lost something, told together: of one card in one set, and of one expansion. -/
structure LostCopies where
  cardSet : CardSetId
  card : String
  expansion : String
  deriving DecidableEq, Repr

instance : Ord LostCopies :=
  ⟨compareLex (compareOn LostCopies.cardSet)
    (compareLex (compareOn LostCopies.card) (compareOn LostCopies.expansion))⟩

/-- A database with copies put back, and those that lost their card or their expansion. -/
structure Restoration where
  db : Database
  restored : Nat
  dropped : Tally LostCopies
  unknownExpansion : Tally LostCopies

namespace Database

def savedCopy? (db : Database) (c : Copy) : Option SavedCopy := do
  let p ← db.printing? c.printing
  let card ← db.card? p.card
  return ⟨c.cardSet, card.canonicalName, card.name, db.expansionName p.expansion⟩

/-- The contents of all card sets by name. -/
def savedCopies (db : Database) : List SavedCopy :=
  db.copies.filterMap db.savedCopy?

end Database

namespace Restoration

def start (db : Database) : Restoration := ⟨db, 0, .empty, .empty⟩

/-- The expansion of a copy, counted when it is gone. -/
def expansion (r : Restoration) (c : SavedCopy) : Option LookupId × Restoration :=
  match c.expansion with
  | none => (none, r)
  | some name =>
    match r.db.findLookup .expansion name with
    | some id => (some id, r)
    | none => (none, { r with
        unknownExpansion := r.unknownExpansion.add ⟨c.cardSet, c.displayName, name⟩ 1 })

/-- Puts a copy back, or counts it as dropped. -/
def restore (r : Restoration) (c : SavedCopy) : Restoration :=
  match r.db.findCard c.card with
  | none => { r with dropped := r.dropped.add ⟨c.cardSet, c.displayName, ""⟩ 1 }
  | some card =>
    let (expansion, r) := r.expansion c
    let (db, printing) := r.db.printingFor card expansion
    { r with db := (db.addCopy c.cardSet printing).1, restored := r.restored + 1 }

def droppedText (db : Database) (lost : LostCopies × Nat) : String :=
  toString lost.2 ++ " x " ++ lost.1.card ++ " removed from " ++ db.cardSetName lost.1.cardSet ++
    ": card no longer in the catalog"

def unknownText (db : Database) (lost : LostCopies × Nat) : String :=
  toString lost.2 ++ " x " ++ lost.1.card ++ " in " ++ db.cardSetName lost.1.cardSet ++
    ": expansion '" ++ lost.1.expansion ++ "' no longer exists, kept without expansion"

def warnings (r : Restoration) : List String :=
  r.dropped.entries.map (droppedText r.db) ++ r.unknownExpansion.entries.map (unknownText r.db)

/-- What is said about a catalog of so many cards and the copies that were put back. -/
def report (r : Restoration) (cards : Nat) : Report :=
  (r.warnings.foldl Report.warning (Report.about [])).success
    ("Catalog loaded: " ++ toString cards ++ " cards, " ++ toString r.restored ++
      " card set entries restored")

end Restoration

/-- Replaces the catalog and puts the copies back; the number of cards goes with it. -/
def Database.replaceCatalog (db : Database) (catalog : Catalog) :
    Outcome (Database × Nat × Restoration) := do
  checkCounter generationBound (db.generation + 1)
  let (loaded, cards) := db.resetCatalog.loadCatalog catalog
  let cards ← cards
  let r := db.savedCopies.foldl Restoration.restore (.start loaded)
  r.db.checkCopyIds
  return (r.db, cards, r)

def Work.refreshCatalog (catalog : Catalog) : Work Report := do
  let (cards, r) ← transaction (·.replaceCatalog catalog)
  return r.report cards

end CardBinder
