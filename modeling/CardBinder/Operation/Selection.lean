import CardBinder.Filter.Basic
import CardBinder.Report
import CardBinder.Store

/-! Making a card set of everything a filter selects. -/

namespace CardBinder

namespace Database

/-- The printings of cards without an expansion, made when needed. -/
def plainPrintings (db : Database) : List CardId → Database × List PrintingId
  | [] => (db, [])
  | card :: cards =>
    let (db, printing) := db.printingFor card none
    let (db, printings) := db.plainPrintings cards
    (db, printing :: printings)

/-- One printing for each card of a filter on cards, else the printings of a filter on printings. -/
def selectedPrintings (db : Database) (f : Filter) : Outcome (Database × List PrintingId) :=
  if f.selects .card then (f.selectCards db).map db.plainPrintings
  else if f.selects .printing then (f.selectPrintings db).map (db, ·)
  else .error (.unsupportedEntity f.name .printing)

/-- A new set with one copy of each selected printing. -/
def insertSelection (db : Database) (f : Filter) (d : CardSetDraft) :
    Outcome (Database × CardSetId) := do
  let (db, printings) ← db.selectedPrintings f
  let (db, id) ← db.insertCardSet d
  let db := printings.foldl (fun db printing => (db.addCopy id printing).1) db
  db.checkCopyIds
  return (db, id)

end Database

def Work.createFromFilter (f : Filter) (d : CardSetDraft) : Work Report := do
  let id ← transaction fun db => db.insertSelection f d
  let cs ← ask (·.getCardSet id)
  let count ← ask fun db => .ok (db.cardCount id)
  let report := Report.about [cs]
  let report :=
    if count = 0 then report.warning ("No cards matched; " ++ d.name ++ " is empty") else report
  return report.success
    ("Card set " ++ d.name ++ " created with " ++ toString count ++ " card(s)")

end CardBinder
