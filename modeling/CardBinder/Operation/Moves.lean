import CardBinder.Report
import CardBinder.Store

/-! Moving card sets under other parents. -/

namespace CardBinder

namespace Database

def nameOrBlank (db : Database) : Option CardSetId → String
  | some id => db.cardSetName id
  | none => ""

/-- Sets a parent and refuses one that puts the set on a loop. -/
def moveSet (db : Database) (set : CardSetId) (parent : Option CardSetId) : Outcome Database := do
  if let some parent := parent then
    let _ ← db.getCardSet parent
  let _ ← db.getCardSet set
  let db := db.setParent set parent
  if db.onLoop set then
    throw (.loopIntroduced (db.cardSetName set) (db.nameOrBlank parent) (db.loopNames set))
  return db

def moveSets (db : Database) (sets : List CardSetId) (parent : Option CardSetId) :
    Outcome Database :=
  sets.foldlM (fun db set => db.moveSet set parent) db

def moveOne (db : Database) (set : CardSetId) (parent : Option CardSetId) :
    Outcome (Database × CardSet) := do
  let db ← db.moveSet set parent
  return (db, ← db.getCardSet set)

def moveChildren (db : Database) (source : CardSetId) (parent : Option CardSetId) :
    Outcome (Database × List CardSet) := do
  let _ ← db.getCardSet source
  let children := db.children source
  let db ← db.moveSets children parent
  return (db, ← children.mapM db.getCardSet)

def destination (db : Database) : Option CardSetId → String
  | some id => "under " ++ db.cardSetName id
  | none => "to the top level"

end Database

namespace Work

def reparent (set : CardSetId) (parent : Option CardSetId) : Work Report := do
  let cs ← transaction (·.moveOne set parent)
  let destination ← ask fun db => .ok (db.destination parent)
  return (Report.about [cs]).success ("Moved " ++ cs.name ++ " " ++ destination)

/-- Moves all children of a set or none of them. -/
def reparentChildren (source : CardSetId) (parent : Option CardSetId) : Work Report := do
  let moved ← transaction (·.moveChildren source parent)
  let destination ← ask fun db => .ok (db.destination parent)
  let report := moved.foldl
    (fun r cs => r.success ("Moved " ++ cs.name ++ " " ++ destination)) (Report.about moved)
  if moved.isEmpty then
    let name ← ask fun db => .ok (db.cardSetName source)
    return report.info (name ++ " has no children")
  return report

end Work
end CardBinder
