import CardBinder.Database.Sets

/-! Card sets form a forest through their parents; the walks here also end where the parents run in a loop. -/

namespace CardBinder.Database

/-- The sets whose parent is `id`, in the order of their rows. -/
def children (db : Database) (id : CardSetId) : List CardSetId :=
  (db.cardSets.filter (·.parent == some id)).map (·.id)

/-- The elements that are new, each once, and everything seen by then. -/
def unseen (seen : List CardSetId) : List CardSetId → List CardSetId
  | [] => []
  | x :: xs => if seen.contains x then unseen seen xs else x :: unseen (x :: seen) xs

/-- Goes through a queue of sets and puts the unseen children of each at its end. -/
def descendantsFrom (db : Database) : Nat → List CardSetId → List CardSetId → List CardSetId
  | 0, _, _ => []
  | _ + 1, _, [] => []
  | fuel + 1, seen, current :: queue =>
    let found := unseen seen (db.children current)
    found ++ descendantsFrom db fuel (found.reverse ++ seen) (queue ++ found)

/-- Every set below `id`, the nearest first, never `id` itself. -/
def descendants (db : Database) (id : CardSetId) : List CardSetId :=
  descendantsFrom db (db.cardSets.length + 1) [id] [id]

/-- The parents above `current`, up to the first one that is in `seen` or has no parent. -/
def ancestorsFrom (db : Database) : Nat → List CardSetId → CardSetId → List CardSetId
  | 0, _, _ => []
  | fuel + 1, seen, current =>
    match db.parent? current with
    | none => []
    | some parent =>
      if seen.contains parent then []
      else parent :: ancestorsFrom db fuel (parent :: seen) parent

/-- A set and its ancestors, each once. -/
def ancestry (db : Database) (id : CardSetId) : List CardSetId :=
  id :: ancestorsFrom db db.cardSets.length [id] id

/-- The parent that the walk up from `id` comes to a second time. -/
def revisited? (db : Database) (id : CardSetId) : Option CardSetId :=
  ((db.ancestry id).getLast?).bind db.parent?

/-- Following parents from a set leads back to it. -/
def onLoop (db : Database) (id : CardSetId) : Bool :=
  db.revisited? id == some id

/-- The names around the loop through a set, from that set on; none when it is on no loop. -/
def loopNames (db : Database) (id : CardSetId) : List String :=
  if db.onLoop id then (db.ancestry id).map db.cardSetName else []

/-- Clears the parent that closes the loop above `id`, and names the set that had it. -/
def breakLoop (db : Database) (id : CardSetId) : Option (Database × String) := do
  let _ ← db.revisited? id
  let last ← (db.ancestry id).getLast?
  let cs ← db.cardSet? last
  return (db.setParent last none, cs.name)

/-- The loops through the given sets, passing over sets of loops that were reported. -/
def loopsFrom (db : Database) (reported : List CardSetId) : List CardSetId → List (List String)
  | [] => []
  | id :: ids =>
    if reported.contains id || !db.onLoop id then loopsFrom db reported ids
    else db.loopNames id :: loopsFrom db (db.ancestry id ++ reported) ids

/-- Every loop, as the names around it. -/
def findLoops (db : Database) : List (List String) :=
  loopsFrom db [] (db.cardSets.map (·.id))

def checkForest (db : Database) : Outcome Unit :=
  match db.findLoops with
  | chain :: _ => .error (.loopDetected chain)
  | [] => .ok ()

/-- What is checked before a database is saved. -/
def validate (db : Database) : Outcome Unit := do
  db.checkIntegrity
  db.checkForest

/-- A loop that was found and the set whose parent was cleared. -/
structure LoopRepair where
  chain : List String
  brokenAt : String
  deriving DecidableEq, Repr

def breakLoopsFrom (db : Database) : List CardSetId → Database × List LoopRepair
  | [] => (db, [])
  | id :: ids =>
    if !db.onLoop id then breakLoopsFrom db ids
    else
      let chain := db.loopNames id
      match db.breakLoop id with
      | none => breakLoopsFrom db ids
      | some (db', brokenAt) =>
        let (db'', repairs) := breakLoopsFrom db' ids
        (db'', ⟨chain, brokenAt⟩ :: repairs)

/-- Breaks every loop. -/
def breakLoops (db : Database) : Database × List LoopRepair :=
  breakLoopsFrom db (db.cardSets.map (·.id))

end CardBinder.Database
