import CardBinder.Desk
import CardBinder.FileAccess.Basic
import CardBinder.Json.Parser
import CardBinder.Json.Printer
import CardBinder.Settings.File

/-! A collection in a folder: its settings, its document, and the work on it. -/

namespace CardBinder

structure Collection where
  folder : String
  settings : Settings
  desk : Desk Unit
  /-- What was done and said when the collection was opened. -/
  greeting : Report

/-- The store whose document is kept at `path`; no file is an empty collection. -/
def Store.ofFile (path : String) (content : Except FileProblem String) : Outcome Store :=
  match content with
  | .ok text =>
    match Json.parse? text with
    | some doc => Store.openAt path (some doc)
    | none => .error .unreadableDocument
  | .error problem =>
    if problem.isAbsence then Store.openAt path none else .error (.file problem)

/-- The settings of the files that are there. -/
def Settings.ofReadings (readings : List (Except FileProblem String)) : Settings :=
  match (readings.filter fun r => !(r matches .error .missing)).mapM Except.toOption with
  | some texts => Settings.ofFiles texts
  | none => {}

/-- Breaks loops when the settings say so. -/
def Work.greeting (settings : Settings) : Work Report := do
  let loops ← ask fun db => .ok db.findLoops
  if settings.repairLoops && !loops.isEmpty then repairLoops else return {}

namespace Collection
variable {m : Type → Type} [Monad m] {ε α : Type}

/-- Writes the document of a store that has been saved since it had `before` saves. -/
def writeSaved (files : FileAccess m) (before : Nat) (store : Store) :
    m (Except FileProblem Unit) :=
  if store.saves = before then return .ok ()
  else match store.saved with
    | some doc => files.write store.location doc.pretty
    | none => return .ok ()

/-- The settings in force in a folder; those of `common`, if any, come first. -/
def readSettings (files : FileAccess m) (common : Option String) (folder : String) :
    m Settings := do
  let readings ← (common.toList ++ [folder]).mapM fun folder =>
    files.read (FileAccess.inFolder folder Settings.fileName)
  return .ofReadings readings

/-- Opens the collection in a folder. -/
def openIn (files : FileAccess m) (common : Option String) (folder : String) :
    m (Outcome Collection) := do
  let settings ← readSettings files common folder
  let path := FileAccess.inFolder folder settings.documentName
  match Store.ofFile path (← files.read path) with
  | .error failure => return .error failure
  | .ok store =>
    match (Work.greeting settings).run.run store with
    | (.error failure, _) => return .error failure
    | (.ok greeting, store) =>
      match ← writeSaved files 0 store with
      | .error problem => return .error (.file problem)
      | .ok () =>
        return .ok ⟨folder, settings, Desk.ofStore store settings.lookup.strategy (), greeting⟩

/-- Does some work at the desk and writes what it saved; a file that cannot be written counts as the
failure of the work and leaves the store as it was. -/
def perform (files : FileAccess m) (c : Collection) (unwritten : FileProblem → ε)
    (work : ExceptT ε (StateM (Desk Unit)) α) : m (Except ε α × Collection) := do
  let (result, desk) := work.run.run c.desk
  match ← writeSaved files c.desk.store.saves desk.store with
  | .error problem =>
    return (.error (unwritten problem), { c with desk := { desk with store := c.desk.store } })
  | .ok () => return (result, { c with desk })

end Collection
end CardBinder
