import CardBinder.Filter.Role
import CardBinder.Text.Integer

/-! The filters people can name: their keywords, the values they take, and what a list of values selects. -/

namespace CardBinder

inductive FilterKind where
  | cardType
  | costType
  | clan
  | discipline
  | group
  | capacity
  | cost
  | life
  | creed
  | virtue
  | cardText
  | cardName
  | sect
  | title
  | expansionRarity
  | disciplineLevel
  | printingExpansion
  | setName
  | setAuthor
  | setComment
  | setAnnotations
  | inSets
  | inUse
  | cardCount
  | setInUse
  | role
  | parentSet
  | artist
  | keyword
  deriving DecidableEq, Repr

/-- How a filter takes its values. -/
inductive FilterInput where
  | list
  /-- A list of values of the form "a with b". -/
  | withList
  | text
  | flag
  deriving DecidableEq, Repr

def FilterInput.label : FilterInput → String
  | .list => "list"
  | .withList => "with_list"
  | .text => "text"
  | .flag => "flag"

structure FilterEntry where
  kind : FilterKind
  keyword : String
  input : FilterInput
  entities : List Entity
  description : String
  help : String
  deriving Repr

def vocabulary : List FilterEntry :=
  [
    ⟨.cardType, "CardType", .list, Entity.withCard, "Card Type",
      "a list of card types.\n" ++
      "Returns all cards of the given types."⟩,
    ⟨.costType, "CostType", .list, Entity.withCard, "Cost Type",
      "a list of cost types.\n" ++
      "Returns cards requiring the selected cost types. \"None\" adds cards with no cost."⟩,
    ⟨.clan, "Clan", .list, Entity.withCard, "Clan",
      "a list of clans.\n" ++
      "Returns all cards which require or are of the specified clans."⟩,
    ⟨.discipline, "Discipline", .list, Entity.withCard, "Discipline",
      "a list of disciplines.\n" ++
      "Returns all cards which require or have the specified disciplines."⟩,
    ⟨.group, "Group", .list, Entity.withCard, "Group",
      "a list of groups.\n" ++
      "Returns all cards belonging to the listed groups. \"Any\" selects cards for any group."⟩,
    ⟨.capacity, "Capacity", .list, Entity.withCard, "Capacity",
      "a list of capacities.\n" ++
      "Returns all cards of the selected capacities."⟩,
    ⟨.cost, "Cost", .list, Entity.withCard, "Cost",
      "a list of costs.\n" ++
      "Returns all cards with the given costs. \"X\" selects variable costs, \"None\" cards with no cost."⟩,
    ⟨.life, "Life", .list, Entity.withCard, "Life",
      "a list of life values.\n" ++
      "Returns allies and retainers with the selected base life."⟩,
    ⟨.creed, "Creed", .list, Entity.withCard, "Creed",
      "a list of creeds.\n" ++
      "Returns all cards requiring or of the specified creeds."⟩,
    ⟨.virtue, "Virtue", .list, Entity.withCard, "Virtue",
      "a list of virtues.\n" ++
      "Returns all cards requiring or having the specified virtues."⟩,
    ⟨.cardText, "CardText", .text, Entity.withCard, "Card Text",
      "the card text to search for (% can be used as a wildcard).\n" ++
      "Returns all cards whose text contains this string."⟩,
    ⟨.cardName, "CardName", .text, Entity.withCard, "Card Name",
      "the text to be matched against card names (% can be used as a wildcard).\n" ++
      "Returns all cards whose name contains this string."⟩,
    ⟨.sect, "Sect", .list, Entity.withCard, "Sect",
      "a list of sects.\n" ++
      "Returns all cards belonging to the given sects."⟩,
    ⟨.title, "Title", .list, Entity.withCard, "Title",
      "a list of titles.\n" ++
      "Returns all cards with the selected titles."⟩,
    ⟨.expansionRarity, "Expansion_with_Rarity", .withList, Entity.withCard, "Expansion with Rarity",
      "a list of expansions and rarities (each element given as \"<expansion> with <rarity>\").\n" ++
      "Returns all matching cards."⟩,
    ⟨.disciplineLevel, "Discipline_with_Level", .withList, Entity.withCard, "Discipline with Level",
      "a list of disciplines with levels (each element given as \"<discipline> with <inferior|superior>\").\n" ++
      "Returns all matching cards."⟩,
    ⟨.printingExpansion, "PhysicalExpansion", .list, Entity.withPrinting, "Physical Expansion",
      "a list of expansions.\n" ++
      "Selects physical cards with the given expansions. \"No Expansion\" selects cards with an unknown expansion."⟩,
    ⟨.setName, "CardSetName", .text, [.cardSet], "Card Set Name",
      "text to match against card set names (% can be used as a wildcard).\n" ++
      "Returns all card sets whose name contains the string."⟩,
    ⟨.setAuthor, "CardSetAuthor", .text, [.cardSet], "Card Set Author",
      "text to match against card set authors (% can be used as a wildcard).\n" ++
      "Returns all card sets whose author includes the string."⟩,
    ⟨.setComment, "CardSetDescription", .text, [.cardSet], "Card Set Description",
      "text to match against card set descriptions (% can be used as a wildcard).\n" ++
      "Returns all card sets whose description includes the string."⟩,
    ⟨.setAnnotations, "CardSetAnnotations", .text, [.cardSet], "Card Set Annotations",
      "text to match against card set annotations (% can be used as a wildcard).\n" ++
      "Returns all card sets whose annotations include the string."⟩,
    ⟨.inSets, "Card_Sets", .list, [.copy], "Card Sets",
      "a list of card set names.\n" ++
      "Selects the cards in the specified card sets."⟩,
    ⟨.inUse, "SetsInUse", .flag, Entity.withPrinting, "In Card Sets in Use",
      "no value.\n" ++
      "Selects cards in card sets marked as in use."⟩,
    ⟨.cardCount, "CardCount", .withList, Entity.withCard, "Card Count",
      "a list of card counts in card sets (each element given as \"<count> with <card set>\").\n" ++
      "Returns cards whose total count in the card sets is one of the counts."⟩,
    ⟨.setInUse, "CSSetsInUse", .flag, [.cardSet], "Card Set Marked as in Use",
      "no value.\n" ++
      "Selects those card sets which are marked as in use."⟩,
    ⟨.role, CardRole.keyword, .list, Entity.withCard, "Card Function",
      "the chosen function from the list of supported types.\n" ++
      "Functions include roles such as untap or bleed modifier.\nReturns all cards matching the given functions."⟩,
    ⟨.parentSet, "ParentCardSet", .list, [.cardSet], "Parent Card Set",
      "a list of card sets.\n" ++
      "Selects card sets with the specified card sets as parent."⟩,
    ⟨.artist, "Artist", .list, Entity.withCard, "Artist",
      "a list of artists.\n" ++
      "Returns all cards where one or more of the specified artists has created art for the card."⟩,
    ⟨.keyword, "Keyword", .list, Entity.withCard, "Keyword",
      "a list of keywords.\n" ++
      "Returns all cards with the given keywords."⟩
  ]

/-- The entry of a keyword in any letter case. -/
def filterEntry? (keyword : String) : Option FilterEntry :=
  vocabulary.find? fun e => Text.sameAscii e.keyword keyword

/-- The value for cards without a cost. -/
def noCost : String := "None"

/-- The value for printings of no known expansion. -/
def noExpansion : String := "No Expansion"

/-- The largest count offered by itself. -/
def lastCount : Nat := 30

namespace Database

def largest (db : Database) (column : NumberColumn) : Int :=
  ((db.cards.filterMap column.value).max?).getD 0

/-- The names of a lookup table, sorted without regard to case. -/
def sortedNames (db : Database) (kind : LookupKind) : List String :=
  ((db.lookupEntries kind).map (·.name)).mergeSort fun a b =>
    decide (Text.lower a ≤ Text.lower b)

def sortedSetNames (db : Database) : List String :=
  (db.cardSets.map (·.name)).mergeSort fun a b => decide (a ≤ b)

def levelValues (db : Database) : List String :=
  (db.sortedNames .discipline).flatMap fun name =>
    match db.findLookup .discipline name with
    | none => []
    | some id =>
      (DisciplineLevel.all.filter fun l => (db.findDisciplinePair id l).isSome).map fun l =>
        name ++ " with " ++ l.name

def rarityValues (db : Database) : List String :=
  (db.rarityPairs.filterMap fun p => do
    let expansion ← db.lookupName .expansion p.expansion
    let rarity ← db.lookupName .rarity p.rarity
    return expansion ++ " with " ++ rarity).mergeSort fun a b => decide (a ≤ b)

end Database

/-- The numbers from one bound to another, both included. -/
def numbersBetween (first last : Int) : List String :=
  (List.range (last - first + 1).toNat).map fun i : Nat => toString (first + i)

namespace FilterEntry

/-- The values a filter offers; text and flags offer none. -/
def values (e : FilterEntry) (db : Database) : List String :=
  match e.kind with
  | .cardType => db.sortedNames .cardType
  | .costType => CostType.all.map (·.name) ++ [noCost]
  | .clan => db.sortedNames .clan
  | .discipline => db.sortedNames .discipline
  | .group => numbersBetween 1 (db.largest .group) ++ ["Any"]
  | .capacity => numbersBetween 1 (db.largest .capacity)
  | .cost => numbersBetween 0 (db.largest .cost) ++ ["X", noCost]
  | .life => numbersBetween 1 (db.largest .life)
  | .creed => db.sortedNames .creed
  | .virtue => db.sortedNames .virtue
  | .cardText => []
  | .cardName => []
  | .sect => db.sortedNames .sect
  | .title => db.sortedNames .title
  | .expansionRarity => db.rarityValues
  | .disciplineLevel => db.levelValues
  | .printingExpansion => noExpansion :: db.sortedNames .expansion
  | .setName => []
  | .setAuthor => []
  | .setComment => []
  | .setAnnotations => []
  | .inSets => db.sortedSetNames
  | .inUse => []
  | .cardCount => (List.range (lastCount + 1)).map toString ++ [">" ++ toString lastCount]
  | .setInUse => []
  | .role => CardRole.labels
  | .parentSet => db.sortedSetNames
  | .artist => db.sortedNames .artist
  | .keyword => db.sortedNames .keyword

def invalid (e : FilterEntry) (value : String) : Failure :=
  .invalidFilterValue e.keyword value

/-- A value that cannot be read is a failure of its filter. -/
def valueOr {α : Type} (e : FilterEntry) (value : String) : Option α → Outcome α
  | some a => .ok a
  | none => .error (e.invalid value)

def group (e : FilterEntry) (v : String) : Outcome Int :=
  if Text.sameAscii v "any" then .ok anyGroup else e.valueOr v (Text.cardNumber? v)

def number (e : FilterEntry) (v : String) : Outcome Int :=
  e.valueOr v (Text.cardNumber? v)

/-- A cost, or nothing for the value that stands for no cost. -/
def cost (e : FilterEntry) (v : String) : Outcome (Option Filter.CostValue) :=
  if Text.sameAscii v "x" then .ok (some .variable)
  else if Text.sameAscii v noCost then .ok none
  else (e.number v).map fun n => some (.fixed n)

def costType (e : FilterEntry) (v : String) : Outcome (Option CostType) :=
  if Text.sameAscii v noCost then .ok none
  else (e.valueOr v (CostType.ofText? v)).map some

/-- The last " with " divides a value. -/
def divided (e : FilterEntry) (v : String) : Outcome (String × String) :=
  e.valueOr v (Text.cutLast " with " v)

def level (e : FilterEntry) (v : String) : Outcome (String × DisciplineLevel) := do
  let (name, level) ← e.divided v
  return (Text.trim name, ← e.valueOr v (DisciplineLevel.ofText? level))

def rarity (e : FilterEntry) (v : String) : Outcome (String × String) := do
  let (expansion, rarity) ← e.divided v
  return (Text.trim expansion, Text.trim rarity)

def bareCount (e : FilterEntry) (v : String) : Outcome CardCount :=
  match v.toList with
  | '>' :: cs =>
    (e.valueOr v (Text.count? (Text.trim (String.ofList cs)))).map .moreThan
  | _ => (e.valueOr v (Text.count? v)).map .exactly

/-- The first " with " divides a count from its card set. -/
def count (e : FilterEntry) (v : String) : Outcome (CardCount × String) := do
  let (count, set) ← e.valueOr v (Text.cutFirst " with " v)
  return (← e.bareCount (Text.trim count), Text.trim set)

def expansion (v : String) : Option String :=
  if Text.sameAscii v noExpansion then none else some v

/-- The filter for a list of trimmed values. -/
def build (e : FilterEntry) (db : Database) (values : List String) : Outcome Filter := do
  let text := Text.join " " values
  match e.kind with
  | .cardType => Filter.lookup db .cardType values true
  | .costType =>
    let read ← values.mapM e.costType
    return .costType (read.filterMap id) (read.contains none)
  | .clan => Filter.lookup db .clan values true
  | .discipline => Filter.lookup db .discipline values true
  | .group => return Filter.groups (← values.mapM e.group)
  | .capacity => return Filter.capacities (← values.mapM e.number)
  | .cost =>
    let read ← values.mapM e.cost
    return Filter.costs (read.filterMap id) (read.contains none)
  | .life => return Filter.lives (← values.mapM e.number)
  | .creed => Filter.lookup db .creed values true
  | .virtue => Filter.lookup db .virtue values true
  | .cardText => return Filter.textContains text
  | .cardName => return Filter.nameContains text
  | .sect => Filter.lookup db .sect values true
  | .title => Filter.lookup db .title values true
  | .expansionRarity => Filter.expansionRarities db (← values.mapM e.rarity) true
  | .disciplineLevel => Filter.disciplineLevels db (← values.mapM e.level) true
  | .printingExpansion => Filter.printings db (values.map expansion) true
  | .setName => return Filter.setTextContains .setName text
  | .setAuthor => return Filter.setTextContains .setAuthor text
  | .setComment => return Filter.setTextContains .setComment text
  | .setAnnotations => return Filter.setTextContains .setAnnotations text
  | .inSets => Filter.contents db values true
  | .inUse => return .inUse
  | .cardCount =>
    let counts ← values.mapM e.count
    Filter.countedIn db (counts.map (·.1)) (counts.map (·.2)) true
  | .setInUse => return .setInUse
  | .role => Filter.playing db (← values.mapM CardRole.parse)
  | .parentSet => Filter.childrenOf db values true
  | .artist => Filter.lookup db .artist values true
  | .keyword => Filter.lookup db .keyword values true

end FilterEntry

/-- The filter of a keyword for values as typed. -/
def buildFilter (db : Database) (keyword : String) (values : List String) : Outcome Filter :=
  match filterEntry? keyword with
  | none => .error (.notFound .filter keyword)
  | some e => e.build db (values.map Text.trim)

end CardBinder
