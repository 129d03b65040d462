import CardBinder.Database.Basic
import CardBinder.Json.Decode
import CardBinder.Text.Integer

/-! The document a database is stored as. Only the rows are stored; what finds them is made anew on reading. -/

namespace CardBinder
open Json (Presence)

def RowId.toJson {t : TableName} (id : RowId t) : Json := .nat id.val

def RowId.ofJson? {t : TableName} (v : Json) : Option (RowId t) :=
  (Json.natUpTo? (idBound - 1) v).map RowId.mk

def cardNumberOfJson? (v : Json) : Option Int :=
  Json.intBetween? (-2147483648) 2147483647 v

def CostType.ofJson? : Json → Option CostType :=
  Json.oneOf? (CostType.all.map fun c => (c.name, c))

def DisciplineLevel.ofJson? : Json → Option DisciplineLevel :=
  Json.oneOf? (DisciplineLevel.all.map fun l => (l.name, l))

def LookupEntry.toJson (e : LookupEntry) : Json :=
  .object <| [("id", e.id.toJson), ("name", .text e.name)] ++
    match e.otherName with
    | some otherName => [("alias", .text otherName)]
    | none => []

def LookupEntry.ofJson? (v : Json) : Option LookupEntry := do
  let [id, name, otherName] ← Json.record?
    [("id", .required), ("name", .required), ("alias", .defaulted)] v | none
  return ⟨← Json.get? RowId.ofJson? id, ← Json.get? Json.text? name,
    ← Json.getNullable? Json.text? otherName⟩

def LookupTable.toJson (t : LookupTable) : Json :=
  .object [("entries", .list (t.entries.map LookupEntry.toJson))]

def LookupTable.ofJson? (v : Json) : Option LookupTable := do
  let [entries] ← Json.record? [("entries", .required)] v | none
  return LookupTable.ofEntries (← Json.get? (Json.list? LookupEntry.ofJson?) entries)

def DisciplinePair.toJson (p : DisciplinePair) : Json :=
  .object [("id", p.id.toJson), ("discipline", p.discipline.toJson), ("level", .text p.level.name)]

def DisciplinePair.ofJson? (v : Json) : Option DisciplinePair := do
  let [id, discipline, level] ← Json.record?
    [("id", .required), ("discipline", .required), ("level", .required)] v | none
  return ⟨← Json.get? RowId.ofJson? id, ← Json.get? RowId.ofJson? discipline,
    ← Json.get? DisciplineLevel.ofJson? level⟩

def RarityPair.toJson (p : RarityPair) : Json :=
  .object [("id", p.id.toJson), ("expansion", p.expansion.toJson), ("rarity", p.rarity.toJson)]

def RarityPair.ofJson? (v : Json) : Option RarityPair := do
  let [id, expansion, rarity] ← Json.record?
    [("id", .required), ("expansion", .required), ("rarity", .required)] v | none
  return ⟨← Json.get? RowId.ofJson? id, ← Json.get? RowId.ofJson? expansion,
    ← Json.get? RowId.ofJson? rarity⟩

def Card.toJson (c : Card) : Json :=
  .object
    [("id", c.id.toJson),
      ("canonical_name", .text c.canonicalName),
      ("name", .text c.name),
      ("text", .text c.text),
      ("search_text", .text c.searchText),
      ("group", Json.optional .int c.group),
      ("capacity", Json.optional .int c.capacity),
      ("cost", Json.optional .int c.cost),
      ("cost_type", Json.optional (fun t => .text t.name) c.costType),
      ("advanced", .bool c.advanced),
      ("life", Json.optional .int c.life)]

def Card.ofJson? (v : Json) : Option Card := do
  let [id, key, name, text, searchText, group, capacity, cost, costType, advanced, life] ←
    Json.record?
      [("id", .required), ("canonical_name", .required), ("name", .required), ("text", .required),
        ("search_text", .required), ("group", .nullable), ("capacity", .nullable),
        ("cost", .nullable), ("cost_type", .nullable), ("advanced", .defaulted),
        ("life", .nullable)] v | none
  return {
    id := ← Json.get? RowId.ofJson? id
    canonicalName := ← Json.get? Json.text? key
    name := ← Json.get? Json.text? name
    text := ← Json.get? Json.text? text
    searchText := ← Json.get? Json.text? searchText
    group := ← Json.getNullable? cardNumberOfJson? group
    capacity := ← Json.getNullable? cardNumberOfJson? capacity
    cost := ← Json.getNullable? cardNumberOfJson? cost
    costType := ← Json.getNullable? CostType.ofJson? costType
    advanced := ← Json.getOr? false Json.bool? advanced
    life := ← Json.getNullable? cardNumberOfJson? life }

def LinkTable.toJson (t : LinkTable) : Json :=
  .object [("links", .list (t.links.map fun l => .list [l.card.toJson, .nat l.target]))]

def Link.ofJson? (v : Json) : Option Link :=
  (Json.pair? RowId.ofJson? (Json.natUpTo? (idBound - 1)) v).map fun (card, target) =>
    ⟨card, target⟩

def LinkTable.ofJson? (v : Json) : Option LinkTable := do
  let [links] ← Json.record? [("links", .required)] v | none
  return LinkTable.ofLinks (← Json.get? (Json.list? Link.ofJson?) links)

def Printing.toJson (p : Printing) : Json :=
  .object [("id", p.id.toJson), ("card", p.card.toJson),
    ("expansion", Json.optional RowId.toJson p.expansion)]

def Printing.ofJson? (v : Json) : Option Printing := do
  let [id, card, expansion] ← Json.record?
    [("id", .required), ("card", .required), ("expansion", .nullable)] v | none
  return ⟨← Json.get? RowId.ofJson? id, ← Json.get? RowId.ofJson? card,
    ← Json.getNullable? RowId.ofJson? expansion⟩

def CardSet.toJson (cs : CardSet) : Json :=
  .object
    [("id", cs.id.toJson),
      ("name", .text cs.name),
      ("author", .text cs.author),
      ("comment", .text cs.comment),
      ("annotations", .text cs.annotations),
      ("in_use", .bool cs.inUse),
      ("parent", Json.optional RowId.toJson cs.parent)]

def CardSet.ofJson? (v : Json) : Option CardSet := do
  let [id, name, author, comment, annotations, inUse, parent] ← Json.record?
    [("id", .required), ("name", .required), ("author", .defaulted), ("comment", .defaulted),
      ("annotations", .defaulted), ("in_use", .defaulted), ("parent", .nullable)] v | none
  return {
    id := ← Json.get? RowId.ofJson? id
    name := ← Json.get? Json.text? name
    author := ← Json.getOr? "" Json.text? author
    comment := ← Json.getOr? "" Json.text? comment
    annotations := ← Json.getOr? "" Json.text? annotations
    inUse := ← Json.getOr? false Json.bool? inUse
    parent := ← Json.getNullable? RowId.ofJson? parent }

def Copy.toJson (c : Copy) : Json :=
  .object [("id", c.id.toJson), ("card_set", c.cardSet.toJson),
    ("physical_card", c.printing.toJson)]

def Copy.ofJson? (v : Json) : Option Copy := do
  let [id, cardSet, printing] ← Json.record?
    [("id", .required), ("card_set", .required), ("physical_card", .required)] v | none
  return ⟨← Json.get? RowId.ofJson? id, ← Json.get? RowId.ofJson? cardSet,
    ← Json.get? RowId.ofJson? printing⟩

namespace Database

def toJson (db : Database) : Json :=
  .object
    [("lookups", .object (LookupKind.all.map fun k => (k.key, (db.lookupTable k).toJson))),
      ("discipline_pairs", .list (db.disciplinePairs.map DisciplinePair.toJson)),
      ("rarity_pairs", .list (db.rarityPairs.map RarityPair.toJson)),
      ("cards", .list (db.cards.map Card.toJson)),
      ("relations", .object (Relation.all.map fun r => (r.key, (db.relation r).toJson))),
      ("physical_cards", .list (db.printings.map Printing.toJson)),
      ("card_sets", .list (db.cardSets.map CardSet.toJson)),
      ("memberships", .list (db.copies.map Copy.toJson)),
      ("next_card_set_id", .nat db.nextCardSetId),
      ("next_membership_id", .nat db.nextCopyId),
      ("catalog_generation", .nat db.generation)]

/-- Lookup tables by their keys; of two tables for one key the later counts. -/
def lookupsOfJson? (db : Database) : Json → Option Database
  | .object fields => fields.foldlM (fun db (key, v) => do
      return db.setLookupTable (← LookupKind.ofKey? key) (← LookupTable.ofJson? v)) db
  | _ => none

def relationsOfJson? (db : Database) : Json → Option Database
  | .object fields => fields.foldlM (fun db (key, v) => do
      return db.setRelation (← Relation.ofKey? key) (← LinkTable.ofJson? v)) db
  | _ => none

def ofJson? (v : Json) : Option Database := do
  let [lookups, disciplinePairs, rarityPairs, cards, relations, printings, cardSets, copies,
      nextCardSetId, nextCopyId, generation] ← Json.record?
    [("lookups", .required), ("discipline_pairs", .required), ("rarity_pairs", .required),
      ("cards", .required), ("relations", .required), ("physical_cards", .required),
      ("card_sets", .required), ("memberships", .required), ("next_card_set_id", .required),
      ("next_membership_id", .required), ("catalog_generation", .required)] v | none
  let db : Database := { empty with
    disciplinePairs := ← Json.get? (Json.list? DisciplinePair.ofJson?) disciplinePairs
    rarityPairs := ← Json.get? (Json.list? RarityPair.ofJson?) rarityPairs
    cards := ← Json.get? (Json.list? Card.ofJson?) cards
    printings := ← Json.get? (Json.list? Printing.ofJson?) printings
    cardSets := ← Json.get? (Json.list? CardSet.ofJson?) cardSets
    copies := ← Json.get? (Json.list? Copy.ofJson?) copies
    nextCardSetId := ← Json.get? (Json.natUpTo? (idBound - 1)) nextCardSetId
    nextCopyId := ← Json.get? (Json.natUpTo? (idBound - 1)) nextCopyId
    generation := ← Json.get? (Json.natUpTo? 18446744073709551615) generation }
  let db ← Json.get? (lookupsOfJson? db) lookups
  Json.get? (relationsOfJson? db) relations

end Database
end CardBinder
