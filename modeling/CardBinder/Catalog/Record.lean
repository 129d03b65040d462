import CardBinder.Database.Document

/-! Card lists as they come from outside: names and aliases of lookup entries, and cards. -/

namespace CardBinder
open Json (Presence)

/-- Declares a lookup entry and another name for it. -/
structure LookupRecord where
  kind : LookupKind
  name : String
  otherName : Option String
  deriving DecidableEq, Repr

structure DisciplineRecord where
  name : String
  level : DisciplineLevel
  deriving DecidableEq, Repr

structure RarityRecord where
  expansion : String
  rarity : String
  deriving DecidableEq, Repr

/-- A card with the names of everything it is linked to. -/
structure CardRecord where
  name : String := ""
  text : String := ""
  group : Option Int := none
  capacity : Option Int := none
  cost : Option Int := none
  costType : Option CostType := none
  advanced : Bool := false
  life : Option Int := none
  cardTypes : List String := []
  clans : List String := []
  creeds : List String := []
  virtues : List String := []
  sects : List String := []
  titles : List String := []
  disciplines : List DisciplineRecord := []
  rarities : List RarityRecord := []
  artists : List String := []
  keywords : List String := []
  rulings : List String := []
  deriving DecidableEq, Repr, Inhabited

structure Catalog where
  lookups : List LookupRecord := []
  cards : List CardRecord := []
  deriving DecidableEq, Repr, Inhabited

/-- The names a card gives for the relations that lead to lookup entries. -/
def CardRecord.names (c : CardRecord) : List (Relation × LookupKind × List String) :=
  [(.cardType, .cardType, c.cardTypes), (.clan, .clan, c.clans), (.creed, .creed, c.creeds),
    (.virtue, .virtue, c.virtues), (.sect, .sect, c.sects), (.title, .title, c.titles),
    (.artist, .artist, c.artists), (.keyword, .keyword, c.keywords),
    (.ruling, .ruling, c.rulings)]

def DisciplineRecord.toJson (d : DisciplineRecord) : Json :=
  .object [("name", .text d.name), ("level", .text d.level.name)]

def RarityRecord.toJson (r : RarityRecord) : Json :=
  .object [("expansion", .text r.expansion), ("rarity", .text r.rarity)]

def CardRecord.toJson (c : CardRecord) : Json :=
  .object
    [("name", .text c.name),
      ("text", .text c.text),
      ("group", Json.optional .int c.group),
      ("capacity", Json.optional .int c.capacity),
      ("cost", Json.optional .int c.cost),
      ("cost_type", Json.optional (fun t => .text t.name) c.costType),
      ("advanced", .bool c.advanced),
      ("life", Json.optional .int c.life),
      ("card_types", Json.texts c.cardTypes),
      ("clans", Json.texts c.clans),
      ("creeds", Json.texts c.creeds),
      ("virtues", Json.texts c.virtues),
      ("sects", Json.texts c.sects),
      ("titles", Json.texts c.titles),
      ("disciplines", .list (c.disciplines.map DisciplineRecord.toJson)),
      ("rarities", .list (c.rarities.map RarityRecord.toJson)),
      ("artists", Json.texts c.artists),
      ("keywords", Json.texts c.keywords),
      ("rulings", Json.texts c.rulings)]

def LookupRecord.ofJson? (v : Json) : Option LookupRecord := do
  let [kind, name, otherName] ← Json.record?
    [("kind", .required), ("name", .required), ("alias", .defaulted)] v | none
  return ⟨← Json.get? (Json.oneOf? (LookupKind.all.map fun k => (k.key, k))) kind,
    ← Json.get? Json.text? name, ← Json.getNullable? Json.text? otherName⟩

def DisciplineRecord.ofJson? (v : Json) : Option DisciplineRecord := do
  let [name, level] ← Json.record? [("name", .required), ("level", .required)] v | none
  return ⟨← Json.get? Json.text? name, ← Json.get? DisciplineLevel.ofJson? level⟩

def RarityRecord.ofJson? (v : Json) : Option RarityRecord := do
  let [expansion, rarity] ← Json.record?
    [("expansion", .required), ("rarity", .required)] v | none
  return ⟨← Json.get? Json.text? expansion, ← Json.get? Json.text? rarity⟩

def textsOfJson? : Option Json → Option (List String) :=
  Json.getOr? [] (Json.list? Json.text?)

def CardRecord.ofJson? (v : Json) : Option CardRecord := do
  let [name, text, group, capacity, cost, costType, advanced, life, cardTypes, clans, creeds,
      virtues, sects, titles, disciplines, rarities, artists, keywords, rulings] ← Json.record?
    (["name", "text", "group", "capacity", "cost", "cost_type", "advanced", "life", "card_types",
      "clans", "creeds", "virtues", "sects", "titles", "disciplines", "rarities", "artists",
      "keywords", "rulings"].map (·, Presence.defaulted)) v | none
  return {
    name := ← Json.getOr? "" Json.text? name
    text := ← Json.getOr? "" Json.text? text
    group := ← Json.getNullable? cardNumberOfJson? group
    capacity := ← Json.getNullable? cardNumberOfJson? capacity
    cost := ← Json.getNullable? cardNumberOfJson? cost
    costType := ← Json.getNullable? CostType.ofJson? costType
    advanced := ← Json.getOr? false Json.bool? advanced
    life := ← Json.getNullable? cardNumberOfJson? life
    cardTypes := ← textsOfJson? cardTypes
    clans := ← textsOfJson? clans
    creeds := ← textsOfJson? creeds
    virtues := ← textsOfJson? virtues
    sects := ← textsOfJson? sects
    titles := ← textsOfJson? titles
    disciplines := ← Json.getOr? [] (Json.list? DisciplineRecord.ofJson?) disciplines
    rarities := ← Json.getOr? [] (Json.list? RarityRecord.ofJson?) rarities
    artists := ← textsOfJson? artists
    keywords := ← textsOfJson? keywords
    rulings := ← textsOfJson? rulings }

def Catalog.ofJson? (v : Json) : Option Catalog := do
  let [lookups, cards] ← Json.record? [("lookups", .defaulted), ("cards", .defaulted)] v | none
  return ⟨← Json.getOr? [] (Json.list? LookupRecord.ofJson?) lookups,
    ← Json.getOr? [] (Json.list? CardRecord.ofJson?) cards⟩

end CardBinder
