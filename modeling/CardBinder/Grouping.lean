import CardBinder.Database.Basic

/-! Card lists under headings. -/

namespace CardBinder

inductive Grouping where
  | cardType
  | multiType
  /-- The clan, or the creed of the imbued. -/
  | clan
  /-- The discipline, or the virtue of the imbued. -/
  | discipline
  | disciplineLevel
  | expansion
  | rarity
  | cryptLibrary
  | sect
  | title
  | cost
  | group
  | groupPair
  | artist
  | keyword
  /-- All cards under one heading. -/
  | everything
  deriving DecidableEq, Repr

namespace Grouping

def all : List Grouping :=
  [.cardType, .multiType, .clan, .discipline, .disciplineLevel, .expansion, .rarity,
    .cryptLibrary, .sect, .title, .cost, .group, .groupPair, .artist, .keyword, .everything]

def name : Grouping → String
  | .cardType => "card-type"
  | .multiType => "multi-type"
  | .clan => "clan"
  | .discipline => "discipline"
  | .disciplineLevel => "discipline-level"
  | .expansion => "expansion"
  | .rarity => "rarity"
  | .cryptLibrary => "crypt-library"
  | .sect => "sect"
  | .title => "title"
  | .cost => "cost"
  | .group => "group"
  | .groupPair => "group-pair"
  | .artist => "artist"
  | .keyword => "keyword"
  | .everything => "none"

/-- Spaces and underscores may stand for the dashes of a name. -/
def ofText? (s : String) : Option Grouping :=
  let wanted := (canonicalName s).map fun c => if c == '_' || c == ' ' then '-' else c
  all.find? (·.name == wanted)

/-- An unknown grouping is told as it was written. -/
def parse (s : String) : Except UnknownWord Grouping :=
  UnknownWord.orElse ⟨"grouping", s⟩ (ofText? s)

/-- The name of a discipline pair, with its level or without. -/
def disciplineHeading (db : Database) (withLevel : Bool) (pair : Nat) : Option String := do
  let p ← db.disciplinePair? ⟨pair⟩
  let name ← db.lookupName .discipline p.discipline
  return if withLevel then name ++ " (" ++ p.level.name ++ ")" else name

def disciplineHeadings (db : Database) (card : CardId) (withLevel : Bool) : List String :=
  (db.related card .discipline).filterMap (disciplineHeading db withLevel)

def expansionHeadings (db : Database) (card : CardId) : List String :=
  (db.related card .rarity).filterMap fun pair => do
    db.lookupName .expansion (← db.rarityPair? ⟨pair⟩).expansion

def rarityHeadings (db : Database) (card : CardId) : List String :=
  (db.related card .rarity).filterMap fun pair => do
    db.lookupName .rarity (← db.rarityPair? ⟨pair⟩).rarity

def costHeadings (c : Card) : List String :=
  match c.cost with
  | none => []
  | some n =>
    let amount := if c.isVariableCost then "X" else toString n
    match c.costType with
    | none => [amount]
    | some t => [amount ++ " " ++ t.name]

def groupHeadings (group : Option Int) : List String :=
  match group with
  | none => []
  | some g => if g = anyGroup then ["Any group"] else ["Group " ++ toString g]

/-- The largest group of the catalog, at least two. -/
def lastGroup (db : Database) : Int :=
  (db.cards.filterMap (·.group)).foldl max 2

def pairHeading (low : Int) : String :=
  "Groups " ++ toString low ++ ", " ++ toString (low + 1)

/-- A group can be played with its neighbours, so it is in two pairs; any group is in every pair. -/
def groupPairHeadings (db : Database) (group : Option Int) : List String :=
  let last := lastGroup db
  match group with
  | none => []
  | some g =>
    if g = anyGroup then (List.range (last - 1).toNat).map fun i : Nat => pairHeading (i + 1)
    else
      (if g > 1 then [pairHeading (g - 1)] else []) ++
        (if g < last then [pairHeading g] else [])

def orElse (first second : List String) : List String :=
  if first.isEmpty then second else first

/-- The headings a card stands under; none puts it with the cards without a heading. -/
def headings (db : Database) (c : Card) : Grouping → List String
  | .cardType => db.relatedNames c.id .cardType
  | .multiType =>
    let types := db.relatedNames c.id .cardType
    if types.isEmpty then [] else [Text.join " / " (types.mergeSort fun a b => decide (a ≤ b))]
  | .clan => orElse (db.relatedNames c.id .creed) (db.relatedNames c.id .clan)
  | .discipline => orElse (db.relatedNames c.id .virtue) (disciplineHeadings db c.id false)
  | .disciplineLevel => disciplineHeadings db c.id true
  | .expansion => expansionHeadings db c.id
  | .rarity => rarityHeadings db c.id
  | .cryptLibrary =>
    if (db.relatedNames c.id .cardType).any cryptTypes.contains then ["Crypt"] else ["Library"]
  | .sect => db.relatedNames c.id .sect
  | .title => db.relatedNames c.id .title
  | .cost => costHeadings c
  | .group => groupHeadings c.group
  | .groupPair => groupPairHeadings db c.group
  | .artist => db.relatedNames c.id .artist
  | .keyword => db.relatedNames c.id .keyword
  | .everything => ["All"]

end Grouping

/-- Cards under one heading, or under none. -/
structure CardGroup where
  heading : Option String
  cards : List CardId
  deriving DecidableEq, Repr

namespace CardGroup

/-- Puts a card at the end of its group; groups stand in the order of their headings, no heading first. -/
def place (heading : Option String) (card : CardId) : List CardGroup → List CardGroup
  | [] => [⟨heading, [card]⟩]
  | g :: gs =>
    match compare heading g.heading with
    | .lt => ⟨heading, [card]⟩ :: g :: gs
    | .eq => { g with cards := g.cards ++ [card] } :: gs
    | .gt => g :: place heading card gs

end CardGroup

/-- A card under each of its headings once. -/
def Database.placeCard (db : Database) (grouping : Grouping) (groups : List CardGroup)
    (id : CardId) : List CardGroup :=
  match db.card? id with
  | none => groups
  | some c =>
    match (grouping.headings db c).eraseDups with
    | [] => CardGroup.place none id groups
    | headings => headings.foldl (fun gs h => CardGroup.place (some h) id gs) groups

/-- The cards under their headings, in the order given; unknown cards are left out. -/
def Database.groupCards (db : Database) (grouping : Grouping) (cards : List CardId) :
    List CardGroup :=
  cards.foldl (db.placeCard grouping) []

end CardBinder
