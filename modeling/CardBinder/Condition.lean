import CardBinder.Database.Sets
import CardBinder.Like

/-! Conditions on rows, over row numbers and column values only, and the rows that satisfy them. -/

namespace CardBinder

inductive Row where
  | card (id : CardId)
  | printing (id : PrintingId)
  | copy (id : CopyId)
  | cardSet (id : CardSetId)
  deriving DecidableEq, Repr

/-- The number of a row in its table. -/
def Row.number : Row → Nat
  | .card id => id.val
  | .printing id => id.val
  | .copy id => id.val
  | .cardSet id => id.val

inductive NumberColumn where
  | group
  | capacity
  | cost
  | life
  deriving DecidableEq, Repr

namespace NumberColumn

def label : NumberColumn → String
  | .group => "Group"
  | .capacity => "Capacity"
  | .cost => "Cost"
  | .life => "Life"

def value (c : Card) : NumberColumn → Option Int
  | .group => c.group
  | .capacity => c.capacity
  | .cost => c.cost
  | .life => c.life

end NumberColumn

inductive TextColumn where
  | cardName
  | cardText
  | searchText
  | setName
  | setAuthor
  | setComment
  | setAnnotations
  deriving DecidableEq, Repr

def TextColumn.label : TextColumn → String
  | .cardName => "CardName"
  | .cardText => "CardText"
  | .searchText => "SearchText"
  | .setName => "CardSetName"
  | .setAuthor => "CardSetAuthor"
  | .setComment => "CardSetComment"
  | .setAnnotations => "CardSetAnnotations"

/-- A condition on a row; one about something the row does not reach is false. -/
inductive Condition where
  | always
  | never
  /-- The column holds one of the values; a row without a value counts when `orNone`. -/
  | number (column : NumberColumn) (values : List Int) (orNone : Bool)
  | costType (values : List CostType) (orNone : Bool)
  | like (column : TextColumn) (pattern : String)
  /-- The card is linked to one of the targets. -/
  | linked (relation : Relation) (targets : List Nat)
  | cardIn (ids : List CardId)
  | printingIn (ids : List PrintingId)
  | expansionIn (expansions : List (Option LookupId))
  | cardSetIn (ids : List CardSetId)
  | parentIn (ids : List CardSetId)
  | all (parts : List Condition)
  | any (parts : List Condition)
  | not (part : Condition)
  deriving Repr, Inhabited

namespace Database

def rowPrinting? (db : Database) : Row → Option Printing
  | .printing id => db.printing? id
  | .copy id => (db.copy? id).bind fun c => db.printing? c.printing
  | .card _ => none
  | .cardSet _ => none

def rowCard? (db : Database) (row : Row) : Option Card :=
  match row with
  | .card id => db.card? id
  | _ => (db.rowPrinting? row).bind fun p => db.card? p.card

def rowCardSet? (db : Database) : Row → Option CardSet
  | .cardSet id => db.cardSet? id
  | .copy id => (db.copy? id).bind fun c => db.cardSet? c.cardSet
  | .card _ => none
  | .printing _ => none

def rowParent? (db : Database) : Row → Option CardSetId
  | .cardSet id => db.parent? id
  | _ => none

def rowText? (db : Database) (row : Row) : TextColumn → Option String
  | .cardName => (db.rowCard? row).map (·.name)
  | .cardText => (db.rowCard? row).map (·.text)
  | .searchText => (db.rowCard? row).map (·.searchText)
  | .setName => (db.rowCardSet? row).map (·.name)
  | .setAuthor => (db.rowCardSet? row).map (·.author)
  | .setComment => (db.rowCardSet? row).map (·.comment)
  | .setAnnotations => (db.rowCardSet? row).map (·.annotations)

/-- A value out of a list, or none where none counts. -/
def oneOfOr {α : Type} [BEq α] (values : List α) (orNone : Bool) : Option α → Bool
  | some v => values.contains v
  | none => orNone

mutual

def satisfies (db : Database) (row : Row) : Condition → Bool
  | .always => true
  | .never => false
  | .number column values orNone =>
    (db.rowCard? row).any fun c => oneOfOr values orNone (column.value c)
  | .costType values orNone => (db.rowCard? row).any fun c => oneOfOr values orNone c.costType
  | .like column pattern => (db.rowText? row column).any (Like.isMatch pattern)
  | .linked relation targets =>
    (db.rowCard? row).any fun c => (db.related c.id relation).any targets.contains
  | .cardIn ids => (db.rowCard? row).any fun c => ids.contains c.id
  | .printingIn ids => (db.rowPrinting? row).any fun p => ids.contains p.id
  | .expansionIn expansions => (db.rowPrinting? row).any fun p => expansions.contains p.expansion
  | .cardSetIn ids => (db.rowCardSet? row).any fun cs => ids.contains cs.id
  | .parentIn ids => (db.rowParent? row).any ids.contains
  | .all parts => db.satisfiesAll row parts
  | .any parts => db.satisfiesAny row parts
  | .not part => !db.satisfies row part

def satisfiesAll (db : Database) (row : Row) : List Condition → Bool
  | [] => true
  | c :: cs => db.satisfies row c && db.satisfiesAll row cs

def satisfiesAny (db : Database) (row : Row) : List Condition → Bool
  | [] => false
  | c :: cs => db.satisfies row c || db.satisfiesAny row cs

end

/-- All rows of a table, in its order. -/
def rows (db : Database) : Entity → List Row
  | .card => db.cards.map (.card ·.id)
  | .printing => db.printings.map (.printing ·.id)
  | .cardSet => db.cardSets.map (.cardSet ·.id)
  | .copy => db.copies.map (.copy ·.id)

def select (db : Database) (entity : Entity) (condition : Condition) : List Row :=
  (db.rows entity).filter fun row => db.satisfies row condition

end Database
end CardBinder
