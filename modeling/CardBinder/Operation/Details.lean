import CardBinder.Report
import CardBinder.Store

/-! Making a card set and changing what is written about it. -/

namespace CardBinder

/-- New details of a card set; none leaves a detail as it is. -/
structure DetailChange where
  name : Option String := none
  author : Option String := none
  comment : Option String := none
  annotations : Option String := none
  inUse : Option Bool := none
  deriving DecidableEq, Repr, Inhabited

namespace DetailChange

def isEmpty (d : DetailChange) : Bool :=
  d.name.isNone && d.author.isNone && d.comment.isNone && d.annotations.isNone && d.inUse.isNone

def apply (d : DetailChange) (cs : CardSet) : CardSet :=
  { cs with
    name := (d.name.map Text.trim).getD cs.name
    author := d.author.getD cs.author
    comment := d.comment.getD cs.comment
    annotations := d.annotations.getD cs.annotations
    inUse := d.inUse.getD cs.inUse }

end DetailChange

namespace Database

/-- A new name is not blank and belongs to no other card set. -/
def checkName (db : Database) (set : CardSetId) (name : String) : Outcome Unit :=
  let name := Text.trim name
  if name.isEmpty then .error .missingName
  else match db.findCardSet name with
    | some other => if other = set then .ok () else .error (.setExists name)
    | none => .ok ()

def changeDetails (db : Database) (set : CardSetId) (d : DetailChange) :
    Outcome (Database × CardSet) := do
  if let some name := d.name then db.checkName set name
  let cs ← db.getCardSet set
  return (db.modifyCardSet set d.apply, d.apply cs)

end Database

namespace Work

def createSet (d : CardSetDraft) : Work Report := do
  let id ← transaction (·.insertCardSet d)
  let cs ← ask (·.getCardSet id)
  return (Report.about [cs]).success ("Card set created: " ++ cs.name)

def updateSet (set : CardSetId) (d : DetailChange) : Work Report := do
  if d.isEmpty then return (Report.about []).info "Nothing to update"
  let cs ← transaction (·.changeDetails set d)
  return (Report.about [cs]).success ("Card set updated: " ++ cs.name)

end Work
end CardBinder
