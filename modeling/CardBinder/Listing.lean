import CardBinder.Database.Document
import CardBinder.Forest

/-! Listings: the hierarchy of card sets, and the contents of one. -/

namespace CardBinder

/-- A card set with its depth below the top level. -/
structure TreeEntry where
  depth : Nat
  cardSet : CardSet
  cardCount : Nat
  deriving DecidableEq, Repr

def TreeEntry.toJson (e : TreeEntry) : Json :=
  .object [("depth", .nat e.depth), ("card_set", e.cardSet.toJson), ("card_count", .nat e.cardCount)]

/-- The copies of a printing in a card set. -/
structure ContentLine where
  name : String
  expansion : Option String
  count : Nat
  deriving DecidableEq, Repr

def ContentLine.toJson (l : ContentLine) : Json :=
  .object
    [("name", .text l.name), ("expansion", Json.optional .text l.expansion), ("count", .nat l.count)]

/-- A printing by its names. -/
structure PrintingName where
  name : String
  expansion : Option String
  deriving DecidableEq, Repr

/-- By name, then by expansion, no expansion first. -/
instance : Ord PrintingName :=
  ⟨compareLex (compareOn PrintingName.name) (compareOn PrintingName.expansion)⟩

namespace Database

def treeEntry (db : Database) (depth : Nat) (cs : CardSet) : TreeEntry :=
  ⟨depth, cs, db.cardCount cs.id⟩

def rootSets (db : Database) : List CardSet :=
  (db.cardSets.filter (·.parent.isNone)).mergeSort fun a b => decide (a.name ≤ b.name)

/-- The children of a set by name; of equal names the last row comes first. -/
def sortedChildren (db : Database) (id : CardSetId) : List CardSet :=
  (((db.children id).filterMap db.cardSet?).mergeSort fun a b =>
    decide (b.name ≤ a.name)).reverse

/-- A set and everything below it, at most `fuel` levels. -/
def subtree (db : Database) : Nat → Nat → CardSet → List TreeEntry
  | 0, _, _ => []
  | fuel + 1, depth, cs =>
    db.treeEntry depth cs :: (db.sortedChildren cs.id).flatMap (subtree db fuel (depth + 1))

/-- Everything that hangs from a set of the top level. -/
def rootedTree (db : Database) : List TreeEntry :=
  db.rootSets.flatMap (db.subtree db.cardSets.length 0)

/-- A card set at the top level of a listing, unless its number is listed. -/
def listIfMissing (db : Database) (listed : List TreeEntry) (cs : CardSet) : List TreeEntry :=
  if listed.any (·.cardSet.id == cs.id) then listed else listed ++ [db.treeEntry 0 cs]

/-- Every card set, depth first, siblings by name; sets that hang from no root come last. -/
def tree (db : Database) : List TreeEntry :=
  db.cardSets.foldl db.listIfMissing db.rootedTree

/-- The rows to which no later row has the same number. -/
def lastRows : List CardSet → List CardSet
  | [] => []
  | cs :: rest => if rest.any (·.id == cs.id) then lastRows rest else cs :: lastRows rest

/-- The names of the card sets in the order of their numbers. -/
def cardSetNames (db : Database) : List (CardSetId × String) :=
  ((lastRows db.cardSets).mergeSort fun a b => decide (a.id.val ≤ b.id.val)).map fun cs =>
    (cs.id, cs.name)

def printingName? (db : Database) (id : PrintingId) : Option PrintingName :=
  (db.printing? id).map fun p => ⟨db.cardName p.card, db.expansionName p.expansion⟩

/-- The contents of a card set by name and expansion. -/
def contents (db : Database) (set : CardSetId) : List ContentLine :=
  let named : Tally PrintingName := (db.printingCounts set).entries.foldl
    (fun t (printing, n) =>
      match db.printingName? printing with
      | some name => t.add name n
      | none => t) .empty
  named.entries.map fun (p, n) => ⟨p.name, p.expansion, n⟩

end Database
end CardBinder
