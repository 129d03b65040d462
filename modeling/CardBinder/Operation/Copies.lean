import CardBinder.Report
import CardBinder.Store

/-! Putting copies of a printing into a card set and taking them out. -/

namespace CardBinder

/-- Some copies of a printing. -/
structure CopyCount where
  card : CardId
  expansion : Option LookupId
  count : Nat
  deriving DecidableEq, Repr

namespace Database

def putCopies (db : Database) (set : CardSetId) (c : CopyCount) :
    Outcome (Database × CardSet) := do
  if (db.card? c.card).isNone then throw (.notFound .card ("#" ++ toString c.card))
  let cs ← db.getCardSet set
  let (db, printing) := db.printingFor c.card c.expansion
  let db := db.addCopies set printing c.count
  db.checkCopyIds
  return (db, cs)

/-- The copies of a printing in a card set. -/
def available (db : Database) (set : CardSetId) (card : CardId) (expansion : Option LookupId) :
    Nat :=
  match db.findPrinting card expansion with
  | some printing => (db.printingCounts set).count printing
  | none => 0

/-- There have to be as many copies as are taken. -/
def takeCopies (db : Database) (set : CardSetId) (c : CopyCount) :
    Outcome (Database × CardSet) := do
  let cs ← db.getCardSet set
  let available := db.available set c.card c.expansion
  if c.count > available then
    throw (.invalidRemoval (db.cardName c.card) (db.expansionName c.expansion) c.count available)
  match db.findPrinting c.card c.expansion with
  | some printing => return ((db.removeCopies set printing c.count).1, cs)
  | none => return (db, cs)

end Database

namespace Work

def addCopies (set : CardSetId) (c : CopyCount) : Work Report := do
  let name ← ask fun db => .ok (db.cardName c.card)
  let cs ← transaction (·.putCopies set c)
  return (Report.about [cs]).success
    ("Added " ++ toString c.count ++ " x " ++ name ++ " to " ++ cs.name)

def removeCopies (set : CardSetId) (c : CopyCount) : Work Report := do
  if c.count = 0 then
    throw (.invalidRequest "nothing to remove, count must be at least 1")
  let name ← ask fun db => .ok (db.cardName c.card)
  let cs ← transaction (·.takeCopies set c)
  return (Report.about [cs]).success
    ("Removed " ++ toString c.count ++ " x " ++ name ++ " from " ++ cs.name)

end Work
end CardBinder
