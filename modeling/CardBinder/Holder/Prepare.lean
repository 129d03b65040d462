import CardBinder.Forest
import CardBinder.Holder.Basic
import CardBinder.Resolver.Basic

/-! Finding the cards that a holder names. -/

namespace CardBinder

/-- Copies of a card that was found. -/
structure FoundCopies where
  card : CardId
  expansion : Option LookupId
  count : Nat
  deriving DecidableEq, Repr

/-- A card set with its cards found, ready to be inserted. -/
structure PreparedSet where
  draft : CardSetDraft
  copies : List FoundCopies
  deriving DecidableEq, Repr

namespace PreparedSet

def total (p : PreparedSet) : Nat :=
  countSum (p.copies.map (·.count))

def insertCopies (set : CardSetId) (db : Database) (f : FoundCopies) : Database :=
  let (db, printing) := db.printingFor f.card f.expansion
  db.addCopies set printing f.count

/-- Makes the card set and its copies. -/
def insert (p : PreparedSet) (db : Database) : Outcome (Database × CardSetId) := do
  let (db, id) ← db.insertCardSet p.draft
  let db := p.copies.foldl (insertCopies id) db
  db.checkCopyIds
  return (db, id)

end PreparedSet

namespace Holder
variable {σ : Type}

/-- The trimmed name, unless it is blank. -/
def trimmedName? (h : Holder) : Option String := do
  let name := Text.trim (← h.name)
  if name.isEmpty then none else some name

/-- The parent of a holder; one that is not there is a warning. -/
def findParent (h : Holder) (db : Database) : Option CardSetId × Holder :=
  match h.parent with
  | none => (none, h)
  | some name =>
    match db.findCardSet name with
    | some id => (some id, h)
    | none => (none, h.warn ("Parent card set '" ++ name ++
        "' not found. Card set will be created without a parent"))

def skippedText (name : String) (count : Nat) : String :=
  "Unable to find a card matching '" ++ name ++ "' (" ++ toString count ++
    (if count = 1 then " copy" else " copies") ++ " skipped)"

/-- The expansion of an entry; one that is not known is a warning. -/
def findExpansion (h : Holder) (db : Database) (r : Resolver σ) (card : CardId)
    (expansion : Option String) : Option LookupId × Holder × Resolver σ :=
  match expansion with
  | none => (none, h, r)
  | some name =>
    match r.expansion db name with
    | (some id, r) => (some id, h, r)
    | (none, r) => (none, h.warn ("Unknown expansion '" ++ name ++ "' for '" ++ db.cardName card ++
        "'. Adding the card without an expansion"), r)

/-- Finds the cards of the entries one by one; entries without a card are skipped with a warning. -/
def findEntries (h : Holder) (db : Database) (r : Resolver σ) :
    List (NamedPrinting × Nat) → List FoundCopies × Holder × Resolver σ
  | [] => ([], h, r)
  | (key, count) :: rest =>
    match r.card db key.name with
    | (none, r) => (h.warn (skippedText key.name count)).findEntries db r rest
    | (some card, r) =>
      let (expansion, h, r) := h.findExpansion db r card key.expansion
      let (found, h, r) := h.findEntries db r rest
      (⟨card, expansion, count⟩ :: found, h, r)

def draft (h : Holder) (name : String) (parent : Option CardSetId) : CardSetDraft :=
  ⟨name, h.author, h.comment, h.annotations, h.inUse, parent⟩

def warnMissing (h : Holder) (name : String) (found : Nat) : Holder :=
  if found = h.size then h
  else h.warn ("Card set '" ++ name ++ "' has " ++ toString found ++ " of the " ++
    toString h.size ++ " requested cards")

/-- Finds parent and cards without writing anything; only a missing name is a failure. -/
def prepare (h : Holder) (db : Database) (r : Resolver σ) :
    Outcome PreparedSet × Holder × Resolver σ :=
  match h.trimmedName? with
  | none => (.error .missingName, h, r)
  | some name =>
    let (parent, h) := h.findParent db
    let (copies, h, r) := h.findEntries db r h.entries.entries
    let prepared : PreparedSet := ⟨h.draft name parent, copies⟩
    (.ok prepared, h.warnMissing name prepared.total, r)

end Holder
end CardBinder
