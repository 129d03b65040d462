import CardBinder.Filter.Basic

/-! Filters by name: clans, types, expansions, cards and card sets as people write them. -/

namespace CardBinder.Filter

/-- Resolves names one by one; a lenient reading passes over names that are not there. -/
def resolveEach {α β : Type} (strict : Bool) (resolve : α → Outcome β) : List α → Outcome (List β)
  | [] => .ok []
  | x :: xs =>
    match resolve x with
    | .ok y => (resolveEach strict resolve xs).map (y :: ·)
    | .error failure =>
      if !strict && failure.isNotFound then resolveEach strict resolve xs else .error failure

/-- The pairs of a discipline, at either level. -/
def disciplineTargets (db : Database) (name : String) : Outcome (List Nat) := do
  let discipline ← db.resolve .discipline name
  return (db.disciplinePairs.filter (·.discipline == discipline)).map (·.id.val)

/-- The pairs of an expansion, at any rarity. -/
def expansionTargets (db : Database) (name : String) : Outcome (List Nat) := do
  let expansion ← db.resolve .expansion name
  return (db.rarityPairs.filter (·.expansion == expansion)).map (·.id.val)

def entryTargets (db : Database) (kind : LookupKind) (name : String) : Outcome (List Nat) := do
  return [(← db.resolve kind name).val]

/-- What a name stands for in a relation; rarities are named by their expansion. -/
def targets (db : Database) (r : Relation) (name : String) : Outcome (List Nat) :=
  match r.lookupKind? with
  | some kind => entryTargets db kind name
  | none => if r = .discipline then disciplineTargets db name else expansionTargets db name

/-- Cards linked to any of the named entries. -/
def lookup (db : Database) (r : Relation) (names : List String) (strict : Bool) :
    Outcome Filter := do
  return .related r (← resolveEach strict (targets db r) names).flatten

/-- Cards linked to the named entry. -/
def ofName (db : Database) (r : Relation) (name : String) : Outcome Filter :=
  lookup db r [name] true

/-- Cards linked to any of the named entries that are there. -/
def ofNames (db : Database) (r : Relation) (names : List String) : Filter :=
  match lookup db r names false with
  | .ok f => f
  | .error _ => .related r []

/-- A discipline that no card has at the level stands for nothing. -/
def levelTargets (db : Database) (name : String) (level : DisciplineLevel) :
    Outcome (List Nat) := do
  let discipline ← db.resolve .discipline name
  return ((db.findDisciplinePair discipline level).map (·.val)).toList

/-- Cards with any of the disciplines at the level given with it. -/
def disciplineLevels (db : Database) (pairs : List (String × DisciplineLevel)) (strict : Bool) :
    Outcome Filter := do
  return .related .discipline
    (← resolveEach strict (fun (name, level) => levelTargets db name level) pairs).flatten

def rarityTargets (db : Database) (expansion rarity : String) : Outcome (List Nat) := do
  let expansion ← db.resolve .expansion expansion
  let rarity ← db.resolve .rarity rarity
  return ((db.findRarityPair expansion rarity).map (·.val)).toList

/-- Cards printed in any of the expansions at the rarity given with it. -/
def expansionRarities (db : Database) (pairs : List (String × String)) (strict : Bool) :
    Outcome Filter := do
  return .related .rarity
    (← resolveEach strict (fun (expansion, rarity) => rarityTargets db expansion rarity)
      pairs).flatten

/-- Vampires and imbued. -/
def cryptCard (db : Database) : Filter :=
  ofNames db .cardType cryptTypes

/-- A cost as people write it. -/
inductive CostValue where
  | fixed (n : Int)
  | variable
  deriving DecidableEq, Repr

def CostValue.stored : CostValue → Int
  | .fixed n => n
  | .variable => variableCost

def groups (values : List Int) : Filter := .number .group values false

def capacities (values : List Int) : Filter := .number .capacity values false

def lives (values : List Int) : Filter := .number .life values false

/-- Cards with one of the costs, and those without a cost when `orNone`. -/
def costs (values : List CostValue) (orNone : Bool) : Filter :=
  .number .cost (values.map (·.stored)) orNone

def textContains (pattern : String) : Filter := .cardText (Text.lower pattern)

def nameContains (pattern : String) : Filter := .cardName (Like.anywhere (Text.lower pattern))

def setTextContains (column : TextColumn) (pattern : String) : Filter :=
  .setText column (Text.lower pattern)

def namedCards (db : Database) (names : List String) (strict : Bool) : Outcome Filter := do
  return .cards (← resolveEach strict db.resolveCard names)

/-- Printings of the expansions; no name stands for no known expansion. -/
def printings (db : Database) (expansions : List (Option String)) (strict : Bool) :
    Outcome Filter := do
  let resolve : Option String → Outcome (Option LookupId)
    | none => .ok none
    | some name => (db.resolve .expansion name).map some
  return .printedIn (← resolveEach strict resolve expansions)

def namedSets (db : Database) (names : List String) (strict : Bool) :
    Outcome (List CardSetId) :=
  resolveEach strict db.resolveCardSet names

/-- The copies in the named card sets. -/
def contents (db : Database) (names : List String) (strict : Bool) : Outcome Filter := do
  return .inSets (← namedSets db names strict)

def countedIn (db : Database) (counts : List CardCount) (names : List String) (strict : Bool) :
    Outcome Filter := do
  return .counted (← namedSets db names strict) counts

/-- Card sets under one of the named card sets. -/
def childrenOf (db : Database) (names : List String) (strict : Bool) : Outcome Filter := do
  return .childOf (← namedSets db names strict)

end CardBinder.Filter
