import CardBinder.Database.Basic
import CardBinder.Search
import CardBinder.Tally

/-! The card sets of a database and the copies in them. -/

namespace CardBinder.Database

def cardSet? (db : Database) (id : CardSetId) : Option CardSet :=
  rowAt? db.cardSets (·.id.val) id.val

def getCardSet (db : Database) (id : CardSetId) : Outcome CardSet :=
  match db.cardSet? id with
  | some cs => .ok cs
  | none => .error (.setNotFound ("#" ++ toString id))

def findCardSet (db : Database) (name : String) : Option CardSetId :=
  (db.cardSets.find? (·.name == name)).map (·.id)

def resolveCardSet (db : Database) (name : String) : Outcome CardSetId :=
  match db.findCardSet name with
  | some id => .ok id
  | none => .error (.setNotFound name)

def cardSetName (db : Database) (id : CardSetId) : String :=
  match db.cardSet? id with
  | some cs => cs.name
  | none => "<card set " ++ toString id ++ ">"

/-- Changes the row of a card set; nothing changes when there is none. -/
def modifyCardSet (db : Database) (id : CardSetId) (f : CardSet → CardSet) : Database :=
  match place? db.cardSets (·.id.val) id.val with
  | some i => { db with cardSets := db.cardSets.modify i f }
  | none => db

def setParent (db : Database) (id : CardSetId) (parent : Option CardSetId) : Database :=
  db.modifyCardSet id ({ · with parent })

def parent? (db : Database) (id : CardSetId) : Option CardSetId :=
  (db.cardSet? id).bind (·.parent)

/-- A new card set; its name has to be free, its parent has to exist, and its number must not be the last. -/
def insertCardSet (db : Database) (d : CardSetDraft) : Outcome (Database × CardSetId) := do
  if (db.findCardSet d.name).isSome then throw (.setExists d.name)
  if let some parent := d.parent then
    let _ ← db.getCardSet parent
  checkCounter idBound (db.nextCardSetId + 1)
  let id : CardSetId := ⟨db.nextCardSetId⟩
  return ({ db with
    cardSets := db.cardSets ++ [d.toCardSet id]
    nextCardSetId := db.nextCardSetId + 1 }, id)

/-- Drops a card set with its copies; its children keep their parent. -/
def removeCardSet (db : Database) (id : CardSetId) : Option (Database × CardSet) := do
  let i ← place? db.cardSets (·.id.val) id.val
  let cs ← db.cardSets[i]?
  return ({ db with
    cardSets := db.cardSets.eraseIdx i
    copies := db.copies.filter (·.cardSet != id) }, cs)

/-! Copies -/

def copy? (db : Database) (id : CopyId) : Option Copy :=
  rowAt? db.copies (·.id.val) id.val

def copiesOf (db : Database) (set : CardSetId) : List Copy :=
  db.copies.filter (·.cardSet == set)

def addCopy (db : Database) (set : CardSetId) (printing : PrintingId) : Database × CopyId :=
  let id : CopyId := ⟨db.nextCopyId⟩
  ({ db with
    copies := db.copies ++ [⟨id, set, printing⟩]
    nextCopyId := db.nextCopyId + 1 }, id)

/-- The numbers of the next `n` copies. -/
def copyIds (next : Nat) : Nat → List CopyId
  | 0 => []
  | n + 1 => ⟨next⟩ :: copyIds (next + 1) n

/-- `n` more copies of a printing. -/
def addCopies (db : Database) (set : CardSetId) (printing : PrintingId) (n : Nat) : Database :=
  { db with
    copies := db.copies ++ (copyIds db.nextCopyId n).map (⟨·, set, printing⟩)
    nextCopyId := db.nextCopyId + n }

/-- Putting copies in cannot fail in another way, so that their counter is looked at when all are in. -/
def checkCopyIds (db : Database) : Outcome Unit :=
  checkCounter idBound db.nextCopyId

/-- Drops the first `n` rows that satisfy `p`. -/
def dropFirst {α : Type} (p : α → Bool) : Nat → List α → List α
  | 0, xs => xs
  | _, [] => []
  | n + 1, x :: xs => if p x then dropFirst p n xs else x :: dropFirst p (n + 1) xs

/-- Takes out at most `n` copies of a printing, and says how many there were to take. -/
def removeCopies (db : Database) (set : CardSetId) (printing : PrintingId) (n : Nat) :
    Database × Nat :=
  let isOne : Copy → Bool := fun c => c.cardSet == set && c.printing == printing
  ({ db with copies := dropFirst isOne n db.copies }, min n (db.copies.countP isOne))

def cardCount (db : Database) (set : CardSetId) : Nat :=
  db.copies.countP (·.cardSet == set)

/-- Copies by printing in a card set. -/
def printingCounts (db : Database) (set : CardSetId) : Tally PrintingId :=
  Tally.ofList ((db.copiesOf set).map (·.printing))

/-- Copies of a printing over all card sets. -/
def printingTotal (db : Database) (printing : PrintingId) : Nat :=
  db.copies.countP (·.printing == printing)

def missingParent? (db : Database) : Option Failure :=
  db.cardSets.findSome? fun cs =>
    match cs.parent with
    | none => none
    | some parent =>
      match db.cardSet? parent with
      | some _ => none
      | none => some (.store
          ("Card set '" ++ cs.name ++ "' has a missing parent (#" ++ toString parent ++ ")"))

def danglingCopy? (db : Database) : Option Failure :=
  db.copies.findSome? fun c =>
    if (db.cardSet? c.cardSet).isSome && (db.printing? c.printing).isSome then none
    else some (.store ("Membership #" ++ toString c.id ++ " references a missing row"))

/-- Parents exist, and so does what each copy refers to. -/
def checkIntegrity (db : Database) : Outcome Unit :=
  match db.missingParent? with
  | some failure => .error failure
  | none =>
    match db.danglingCopy? with
    | some failure => .error failure
    | none => .ok ()

end CardBinder.Database
