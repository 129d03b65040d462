import CardBinder.Collection
import CardBinder.CommandLine.Command
import CardBinder.CommandLine.Layout
import CardBinder.Csv

/-! One run of the program: a command line is read, a collection opened, the command done, and its
answer or its complaint put into text. -/

namespace CardBinder.CommandLine

inductive Complaint where
  | failed (failure : Failure)
  | unreadable (path : String) (problem : FileProblem)
  | notCatalog (path : String)
  | nothingToUpdate
  | notClean (check : DeleteCheck)
  deriving DecidableEq, Repr

namespace Complaint

/-- What would be lost with a card set. -/
def losses (c : DeleteCheck) : List String :=
  (if c.cardCount > 0 then [toString c.cardCount ++ " cards"] else []) ++
    (if c.children.isEmpty then [] else ["children (" ++ Text.join ", " c.children ++ ")"])

/-- A file problem is told with its cause, which says the same again. -/
def message : Complaint → String
  | .failed (.file problem) => (Failure.file problem).message ++ ": " ++ problem.message
  | .failed failure => failure.message
  | .unreadable path problem => "could not read " ++ path ++ ": " ++ problem.message
  | .notCatalog path => path ++ " is not a card catalog"
  | .nothingToUpdate =>
    "nothing to update, pass at least one of --rename, --author, --comment, --annotations, --in-use"
  | .notClean check =>
    "'" ++ check.name ++ "' has " ++ Text.join " and " (losses check) ++
      "; use --force to delete it anyway"

end Complaint

/-- Work for a command. -/
abbrev Errand (α : Type) := ExceptT Complaint (StateM (Desk Unit)) α

namespace Errand
variable {α : Type}

def does (a : Action Unit α) : Errand α := do
  let (result, desk) := a.run.run (← get)
  set desk
  ExceptT.mk (pure (result.mapError .failed))

def asks (f : Database → Outcome α) : Errand α :=
  does (.ask f)

/-- Does something and tells what there is to say about it. -/
def tells (a : Action Unit Report) : Errand String := do
  return Layout.messages (← does a).messages

/-- The cards that pass all filters, by name. -/
def cardsByName (exprs : List String) : Errand (List CardId) :=
  asks fun db => do
    let cards ← db.filterCards exprs
    return cards.mergeSort fun a b => decide (db.cardName a ≤ db.cardName b)

end Errand

/-- How answers are to be given, and what is known about the collection. -/
structure Setting where
  json : Bool
  folder : String
  settings : Settings

namespace Setting

/-- An answer as JSON or as text. -/
def give (s : Setting) (json : Json) (text : String) : String :=
  if s.json then json.pretty ++ "\n" else text

end Setting

namespace Command

def readCatalog (file : String) (content : Except FileProblem String) : Errand Catalog :=
  match content with
  | .error problem => throw (.unreadable file problem)
  | .ok text =>
    match (Json.parse? text).bind Catalog.ofJson? with
    | some catalog => return catalog
    | none => throw (.notCatalog file)

def readList (file : String) (content : Except FileProblem String) : Errand String :=
  match content with
  | .error problem => throw (.unreadable file problem)
  | .ok text => return text

def deleteSet (name : String) (force : Bool) : Errand String := do
  let check ← Errand.does (.checkDelete name)
  if !check.isClean && !force then throw (.notClean check)
  Errand.tells (.deleteSet name)

def listCards (s : Setting) (exprs : List String) (grouping : Option Grouping) :
    Errand String := do
  let cards ← Errand.cardsByName exprs
  let groups ← Errand.asks fun db => .ok (
    let names (cards : List CardId) := cards.map db.cardName
    match grouping with
    | some g => (db.groupCards g cards).map fun g => (⟨g.heading, names g.cards⟩ : Layout.NameGroup)
    | none => [⟨none, names cards⟩])
  return s.give (.list (groups.map (·.toJson))) (Layout.nameGroups groups)

/-- Without columns the known ones are listed. -/
def tabulate (exprs columns : List String) : Errand String := do
  if columns.isEmpty then
    return Layout.values (← Errand.asks fun db => .ok db.columnNames)
  let cards ← Errand.cardsByName exprs
  let rows ← Errand.asks fun db => do
    return (cards.map db.cardName).zip (← db.featureRows cards columns)
  return Csv.table columns rows

def filterJson (e : FilterEntry) : Json :=
  .object
    [("keyword", .text e.keyword), ("description", .text e.description), ("help", .text e.help)]

/-- The work of a command and its answer; `content` is what its file holds. -/
def errand (s : Setting) (content : Except FileProblem String) : Command → Errand String
  | .loadCatalog file => do Errand.tells (.refreshCatalog (← readCatalog file content))
  | .list => do
    let tree ← Errand.asks fun db => .ok db.tree
    return s.give (.list (tree.map (·.toJson))) (Layout.tree tree)
  | .contents name => do
    let contents ← Errand.does (.contents name)
    return s.give (.list (contents.map (·.toJson))) (Layout.contents name contents)
  | .create request => Errand.tells (.createSet request)
  | .update name change => do
    if change.isEmpty then throw .nothingToUpdate
    Errand.tells (.updateSet name change)
  | .add set card expansion count => Errand.tells (.addCards set card expansion count)
  | .remove set card expansion count => Errand.tells (.removeCards set card expansion count)
  | .reparent name parent => Errand.tells (.reparent name parent)
  | .reparentChildren source target => Errand.tells (.reparentChildren source target)
  | .delete name force => deleteSet name force
  | .repair => Errand.tells .repairLoops
  | .importList file name parent policy => do
    let text ← readList file content
    Errand.tells (.importDeckList text name parent policy)
  | .filters => return s.give (.list (vocabulary.map filterJson)) (Layout.filters vocabulary)
  | .values keyword => do
    let values ← Errand.asks (·.filterValues keyword)
    return s.give (Json.texts values) (Layout.values values)
  | .cards exprs grouping => listCards s exprs grouping
  | .table exprs columns => tabulate exprs columns
  | .fromFilter request exprs => Errand.tells (.createFromFilter exprs request)
  | .independence parent children => do
    let report ← Errand.does (.checkIndependence parent children)
    return s.give report.toJson (Layout.supply report)
  | .settings =>
    return s.give s.settings.toJson ("# " ++ s.folder ++ "\n" ++ s.settings.text)

end Command

/-- What a run leaves behind besides its files. -/
structure Transcript where
  code : Nat
  out : String := ""
  err : String := ""
  deriving DecidableEq, Repr

namespace Transcript

def usageCode : Nat := 2

def refused : Transcript where
  code := usageCode
  err := Command.usage

/-- The program stopped in the middle of its work. -/
def stoppedCode : Nat := 101

def complaint (c : Complaint) : Transcript where
  code := if c = .failed .outOfNumbers then stoppedCode else 1
  err := "Error: " ++ c.message ++ "\n"

end Transcript

section
variable {m : Type → Type} [Monad m]

/-- The file of a command; a command without one has nothing to read. -/
def readInput (files : FileAccess m) (c : Command) : m (Except FileProblem String) :=
  match c.file? with
  | some file => files.read file
  | none => return .ok ""

/-- Carries out an invocation. `common` is the folder of the settings that all collections share, and of
the collection that is used when no other is named. -/
def Invocation.run (files : FileAccess m) (common : Option String) (i : Invocation) :
    m Transcript := do
  match i.folder.or common with
  | none =>
    return .complaint (.failed (.store "could not determine the data directory"))
  | some folder =>
    match ← Collection.openIn files common folder with
    | .error failure => return .complaint (.failed failure)
    | .ok c =>
      let notes := Layout.messages c.greeting.messages
      let work := i.command.errand ⟨i.json, c.folder, c.settings⟩ (← readInput files i.command)
      let (result, _) ← c.perform files (.failed <| .file ·) work
      match result with
      | .ok text => return ⟨0, text, notes⟩
      | .error complaint =>
        let t := Transcript.complaint complaint
        return { t with err := notes ++ t.err }

/-- A whole run, from the arguments on. -/
def run (files : FileAccess m) (common : Option String) (args : List String) : m Transcript :=
  match Invocation.ofArguments? args with
  | some i => i.run files common
  | none => return .refused

end
end CardBinder.CommandLine
