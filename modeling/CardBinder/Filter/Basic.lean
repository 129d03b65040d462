import CardBinder.Condition
import CardBinder.Like.Size

/-! Filters: selections of rows that can be combined, and the tables they can select from. -/

namespace CardBinder

/-- A count that a filter asks for. -/
inductive CardCount where
  | exactly (n : Nat)
  | moreThan (n : Nat)
  deriving DecidableEq, Repr

namespace CardCount

def holds (count : Nat) : CardCount → Bool
  | .exactly n => count == n
  | .moreThan n => count > n

def label : CardCount → String
  | .exactly n => toString n
  | .moreThan n => ">" ++ toString n

end CardCount

inductive Filter where
  /-- Every row of every table. -/
  | everything
  | all (parts : List Filter)
  | any (parts : List Filter)
  | not (part : Filter)
  | related (relation : Relation) (targets : List Nat)
  | number (column : NumberColumn) (values : List Int) (orNone : Bool)
  | costType (values : List CostType) (orNone : Bool)
  /-- Card text that contains a pattern. -/
  | cardText (needle : String)
  | cardName (pattern : String)
  | cards (ids : List CardId)
  | printedIn (expansions : List (Option LookupId))
  /-- Copies in one of the card sets. -/
  | inSets (sets : List CardSetId)
  /-- Cards with one of the counts over the card sets together. -/
  | counted (sets : List CardSetId) (counts : List CardCount)
  /-- Printings in a card set that is in use. -/
  | inUse
  | setText (column : TextColumn) (needle : String)
  | setInUse
  | childOf (parents : List CardSetId)
  /-- Cards that play a part, told by their types and texts. -/
  | role (composed : Filter)
  deriving Repr, Inhabited

namespace Filter

/-- The name of a filter in messages. -/
def name : Filter → String
  | .everything => "Null"
  | .all _ => "And"
  | .any _ => "Or"
  | .not part => "Not " ++ part.name
  | .related relation _ => relation.label
  | .number column _ _ => column.label
  | .costType .. => "CostType"
  | .cardText _ => "CardText"
  | .cardName _ => "CardName"
  | .cards _ => "SpecificCard"
  | .printedIn _ => "PhysicalExpansion"
  | .inSets _ => "PhysicalCardSet"
  | .counted .. => "CardSetCardCount"
  | .inUse => "PhysicalCardSetInUse"
  | .setText column _ => column.label
  | .setInUse => "CardSetInUse"
  | .childOf _ => "ParentCardSet"
  | .role _ => "CardFunction"

mutual

/-- The tables a filter can select from; a combination can where all its parts can. -/
def selects (e : Entity) : Filter → Bool
  | .everything => true
  | .all parts => selectsAll e parts
  | .any parts => selectsAll e parts
  | .not part => selects e part
  | .related .. => Entity.withCard.contains e
  | .number .. => Entity.withCard.contains e
  | .costType .. => Entity.withCard.contains e
  | .cardText _ => Entity.withCard.contains e
  | .cardName _ => Entity.withCard.contains e
  | .cards _ => Entity.withCard.contains e
  | .counted .. => Entity.withCard.contains e
  | .role _ => Entity.withCard.contains e
  | .printedIn _ => Entity.withPrinting.contains e
  | .inUse => Entity.withPrinting.contains e
  | .inSets _ => e == .copy
  | .setText .. => e == .cardSet
  | .setInUse => e == .cardSet
  | .childOf _ => e == .cardSet

def selectsAll (e : Entity) : List Filter → Bool
  | [] => true
  | f :: fs => selects e f && selectsAll e fs

end

/-- The tables a filter can select from. -/
def entities (f : Filter) : List Entity :=
  Entity.all.filter f.selects

/-- A pattern that names braces is looked for in the text as printed, others in the text without them. -/
def textColumn (needle : String) : TextColumn :=
  if needle.toList.contains '\x7b' || needle.toList.contains '\x7d' then .cardText else .searchText

end Filter

namespace Database

/-- Copies of each card over the given card sets. -/
def cardCounts (db : Database) (sets : List CardSetId) : Tally CardId :=
  Tally.ofList <| (db.copies.filter fun c => sets.contains c.cardSet).filterMap fun c =>
    (db.printing? c.printing).map (·.card)

def cardsWithCount (db : Database) (sets : List CardSetId) (counts : List CardCount) :
    List CardId :=
  let perCard := db.cardCounts sets
  (db.cards.map (·.id)).filter fun id => counts.any (·.holds (perCard.count id))

def setsInUse (db : Database) : List CardSetId :=
  (db.cardSets.filter (·.inUse)).map (·.id)

def printingsInUse (db : Database) : List PrintingId :=
  let sets := db.setsInUse
  (db.copies.filter fun c => sets.contains c.cardSet).map (·.printing)

end Database

namespace Filter

mutual

/-- What a filter asks of a row, given the present contents of the card sets. -/
def condition (db : Database) : Filter → Outcome Condition
  | .everything => .ok .always
  | .all parts => (conditions db parts).map .all
  | .any parts => (conditions db parts).map .any
  | .not part => (condition db part).map .not
  | .related relation targets => .ok (.linked relation targets)
  | .number column values orNone => .ok (.number column values orNone)
  | .costType values orNone => .ok (.costType values orNone)
  | .cardText needle => (Like.checked (Like.anywhere needle)).map (.like (textColumn needle))
  | .cardName pattern => (Like.checked pattern).map (.like .cardName)
  | .cards ids => .ok (.cardIn ids)
  | .printedIn expansions => .ok (.expansionIn expansions)
  | .inSets sets => .ok (.cardSetIn sets)
  | .counted sets counts => .ok (.cardIn (db.cardsWithCount sets counts))
  | .inUse => .ok (.printingIn db.printingsInUse)
  | .setText column needle => (Like.checked (Like.anywhere needle)).map (.like column)
  | .setInUse => .ok (.cardSetIn db.setsInUse)
  | .childOf parents => .ok (.parentIn parents)
  | .role composed => condition db composed

def conditions (db : Database) : List Filter → Outcome (List Condition)
  | [] => .ok []
  | f :: fs => do
    let first ← condition db f
    let others ← conditions db fs
    return first :: others

end

/-- The rows of a table that a filter selects, in the order of the table. -/
def select (f : Filter) (db : Database) (e : Entity) : Outcome (List Row) :=
  if f.selects e then (f.condition db).map (db.select e)
  else .error (.unsupportedEntity f.name e)

def selectCards (f : Filter) (db : Database) : Outcome (List CardId) :=
  (f.select db .card).map (·.filterMap fun
    | .card id => some id
    | _ => none)

def selectPrintings (f : Filter) (db : Database) : Outcome (List PrintingId) :=
  (f.select db .printing).map (·.filterMap fun
    | .printing id => some id
    | _ => none)

end Filter
end CardBinder
