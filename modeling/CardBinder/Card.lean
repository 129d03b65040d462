import CardBinder.Ids
import CardBinder.Names
import CardBinder.Word

/-! Cards, their printings, and the pairs that disciplines and rarities come in. -/

namespace CardBinder

inductive CostType where
  | pool
  | blood
  | conviction
  deriving DecidableEq, Repr, Inhabited

namespace CostType

def all : List CostType := [.pool, .blood, .conviction]

def name : CostType → String
  | .pool => "pool"
  | .blood => "blood"
  | .conviction => "conviction"

def ofText? (s : String) : Option CostType :=
  all.find? (·.name == canonicalName s)

def parse (s : String) : Except UnknownWord CostType :=
  UnknownWord.orElse ⟨"cost type", canonicalName s⟩ (ofText? s)

end CostType

inductive DisciplineLevel where
  | inferior
  | superior
  deriving DecidableEq, Repr, Inhabited

namespace DisciplineLevel

def all : List DisciplineLevel := [.inferior, .superior]

def name : DisciplineLevel → String
  | .inferior => "inferior"
  | .superior => "superior"

def ofText? (s : String) : Option DisciplineLevel :=
  all.find? (·.name == canonicalName s)

def parse (s : String) : Except UnknownWord DisciplineLevel :=
  UnknownWord.orElse ⟨"discipline level", canonicalName s⟩ (ofText? s)

end DisciplineLevel

/-- The cost that stands for "X". -/
def variableCost : Int := -1

/-- The group of cards that go with every group. -/
def anyGroup : Int := -1

/-- The card types of the crypt. -/
def cryptTypes : List String := ["Vampire", "Imbued"]

/-- A card design; each name in the catalog is one card. -/
structure Card where
  id : CardId
  canonicalName : String
  name : String
  text : String
  /-- The text without the braces of marked clauses. -/
  searchText : String
  group : Option Int
  capacity : Option Int
  cost : Option Int
  costType : Option CostType
  advanced : Bool
  life : Option Int
  deriving DecidableEq, Repr, Inhabited

def Card.isVariableCost (c : Card) : Bool :=
  c.cost == some variableCost

structure DisciplinePair where
  id : PairId
  discipline : LookupId
  level : DisciplineLevel
  deriving DecidableEq, Repr, Inhabited

structure RarityPair where
  id : PairId
  expansion : LookupId
  rarity : LookupId
  deriving DecidableEq, Repr, Inhabited

/-- A card as printed in an expansion, or in none that is known; shared by all sets that hold it. -/
structure Printing where
  id : PrintingId
  card : CardId
  expansion : Option LookupId
  deriving DecidableEq, Repr, Inhabited

end CardBinder
