import CardBinder.Database.Sets
import CardBinder.Json.Basic

/-! Whether a parent set has the copies to build several of its children at the same time. -/

namespace CardBinder

/-- Copies that the children need and the parent does not have. -/
structure Shortfall where
  card : String
  /-- None when the count is over all printings. -/
  expansion : Option String
  needed : Nat
  available : Nat
  deriving DecidableEq, Repr

def Shortfall.toJson (s : Shortfall) : Json :=
  .object
    [("card", .text s.card), ("expansion", Json.optional .text s.expansion),
      ("needed", .nat s.needed), ("available", .nat s.available)]

structure SupplyReport where
  parent : String
  children : List String
  shortfalls : List Shortfall
  deriving DecidableEq, Repr

def SupplyReport.isIndependent (r : SupplyReport) : Bool :=
  r.shortfalls.isEmpty

def SupplyReport.toJson (r : SupplyReport) : Json :=
  .object
    [("parent", .text r.parent), ("children", Json.texts r.children),
      ("shortfalls", .list (r.shortfalls.map Shortfall.toJson))]

namespace Database

/-- Copies by card out of copies by printing. -/
def cardTotals (db : Database) (counts : Tally PrintingId) : Tally CardId :=
  counts.entries.foldl (fun t (printing, n) =>
    match db.printing? printing with
    | some p => t.add p.card n
    | none => t) .empty

/-- What the children ask for together; a child listed twice asks twice. -/
def wantedCopies (db : Database) (children : List CardSetId) : Tally PrintingId :=
  children.foldl (fun t child =>
    (db.printingCounts child).entries.foldl (fun t (printing, n) => t.add printing n) t) .empty

/-- A printing of a known expansion has to be there as such. -/
def printingShortfall? (db : Database) (available : Tally PrintingId)
    (wanted : PrintingId × Nat) : Option Shortfall := do
  let p ← db.printing? wanted.1
  let _ ← p.expansion
  let stock := available.count wanted.1
  if wanted.2 > stock then
    some ⟨db.cardName p.card, db.expansionName p.expansion, wanted.2, stock⟩
  else none

/-- Whatever the printings, there have to be copies enough of a card. -/
def cardShortfall? (db : Database) (available : Tally CardId) (wanted : CardId × Nat) :
    Option Shortfall :=
  let stock := available.count wanted.1
  if wanted.2 > stock then some ⟨db.cardName wanted.1, none, wanted.2, stock⟩ else none

/-- By card name, then by expansion, all printings first. -/
def shortfallLe (a b : Shortfall) : Bool :=
  (compareLex (compareOn Shortfall.card) (compareOn Shortfall.expansion) a b).isLE

def shortfalls (db : Database) (parent : CardSetId) (children : List CardSetId) :
    List Shortfall :=
  let wanted := db.wantedCopies children
  let available := db.printingCounts parent
  (wanted.entries.filterMap (db.printingShortfall? available) ++
    (db.cardTotals wanted).entries.filterMap
      (db.cardShortfall? (db.cardTotals available))).mergeSort shortfallLe

/-- The name of a set, which has to be a child of `parent`. -/
def childName (db : Database) (parent : CardSet) (child : CardSetId) : Outcome String := do
  let cs ← db.getCardSet child
  if cs.parent = some parent.id then return cs.name
  throw (.invalidRequest ("'" ++ cs.name ++ "' is not a child of '" ++ parent.name ++ "'"))

def checkIndependence (db : Database) (parent : CardSetId) (children : List CardSetId) :
    Outcome SupplyReport := do
  if children.length < 2 then
    throw (.invalidRequest "an independence check needs at least two child card sets")
  let row ← db.getCardSet parent
  let names ← children.mapM (db.childName row)
  return ⟨row.name, names, db.shortfalls parent children⟩

end Database
end CardBinder
