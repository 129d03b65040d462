import CardBinder.Report
import CardBinder.Store

/-! Breaking the loops of a stored hierarchy. -/

namespace CardBinder

def Report.repaired (db : Database) (r : Report) (repair : Database.LoopRepair) : Report :=
  let r := r.info ("  - " ++ Failure.chainText repair.chain ++ ": removed the parent of " ++
    repair.brokenAt)
  match (db.findCardSet repair.brokenAt).bind db.cardSet? with
  | some cs => { r with affected := r.affected ++ [cs] }
  | none => r

def Work.repairLoops : Work Report := do
  let loops ← ask fun db => .ok db.findLoops
  if loops.isEmpty then return (Report.about []).success "No loops found."
  let repairs ← transaction fun db => .ok db.breakLoops
  let report := (Report.about []).warning
    ("Found " ++ toString repairs.length ++ " loop(s) in the card set hierarchy:")
  return repairs.foldl (Report.repaired (← get).db) report

end CardBinder
