import CardBinder.Report
import CardBinder.Store

/-! Deleting a card set. Its children stay, as sets of the top level. -/

namespace CardBinder

/-- What a deletion would throw away. -/
structure DeleteCheck where
  name : String
  cardCount : Nat
  children : List String
  deriving DecidableEq, Repr

/-- No card would be lost and no child detached. -/
def DeleteCheck.isClean (c : DeleteCheck) : Bool :=
  c.cardCount == 0 && c.children.isEmpty

namespace Database

def checkDelete (db : Database) (set : CardSetId) : Outcome DeleteCheck := do
  let cs ← db.getCardSet set
  return ⟨cs.name, db.cardCount set, (db.children set).map db.cardSetName⟩

/-- Clears the parents of the given sets; the rows afterwards. -/
def detach (db : Database) (sets : List CardSetId) : Database × List CardSet :=
  let db := sets.foldl (fun db set => db.setParent set none) db
  (db, sets.filterMap db.cardSet?)

/-- Drops a card set and its copies; the set and its former children. -/
def deleteSet (db : Database) (set : CardSetId) :
    Outcome (Database × CardSet × List CardSet) := do
  let _ ← db.getCardSet set
  let (db, detached) := db.detach (db.children set)
  match db.removeCardSet set with
  | some (db, removed) => return (db, removed, detached)
  | none => throw (.setNotFound ("#" ++ toString set))

end Database

def Work.deleteSet (set : CardSetId) : Work Report := do
  let (removed, detached) ← transaction (·.deleteSet set)
  let report := (Report.about detached).success ("Card set deleted: " ++ removed.name)
  return detached.foldl
    (fun r cs => r.warning (cs.name ++ " is now a top-level card set")) report

end CardBinder
