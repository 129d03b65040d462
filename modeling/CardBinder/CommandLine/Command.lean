import CardBinder.CommandLine.Arguments
import CardBinder.Desk

/-! The commands, and how each is written. -/

namespace CardBinder.CommandLine

inductive Command where
  | loadCatalog (file : String)
  | list
  | contents (name : String)
  | create (request : SetRequest)
  | update (name : String) (change : DetailChange)
  | add (set card : String) (expansion : Option String) (count : Nat)
  | remove (set card : String) (expansion : Option String) (count : Nat)
  | reparent (name : String) (parent : Option String)
  | reparentChildren (source : String) (target : Option String)
  | delete (name : String) (force : Bool)
  | repair
  | importList (file : String) (name parent : Option String) (policy : ImportPolicy)
  | filters
  | values (keyword : String)
  | cards (exprs : List String) (grouping : Option Grouping)
  | table (exprs columns : List String)
  | fromFilter (request : SetRequest) (exprs : List String)
  | independence (parent : String) (children : List String)
  | settings
  deriving DecidableEq, Repr

namespace Command

/-- The file that a command reads. -/
def file? : Command → Option String
  | .loadCatalog file => some file
  | .importList file .. => some file
  | _ => none

def dataSwitch : Switch := { long := "data" }
def jsonSwitch : Switch := { long := "json", takesValue := false }
def verboseSwitch : Switch :=
  { long := "verbose", short := some 'v', takesValue := false, repeats := true }

/-- The switches that every command knows. -/
def generalSwitches : List Switch := [dataSwitch, jsonSwitch, verboseSwitch]

def parentSwitch : Switch := { long := "parent", short := some 'p' }
def authorSwitch : Switch := { long := "author" }
def commentSwitch : Switch := { long := "comment" }
def expansionSwitch : Switch := { long := "expansion", short := some 'e' }
def countSwitch : Switch := { long := "count", short := some 'c' }
def filterSwitch : Switch := { long := "filter", short := some 'f', repeats := true }

/-- The value of a switch read by `f`; `absent` when the switch is not there. -/
def read? {α : Type} (a : Arguments) (s : Switch) (absent : α) (f : String → Option α) : Option α :=
  match a.value? s.long with
  | some value => f value
  | none => some absent

def bool? : String → Option Bool
  | "true" => some true
  | "false" => some false
  | _ => none

/-- A count of copies; minus zero is zero. -/
def count? (s : String) : Option Nat :=
  match s.toList with
  | '-' :: cs => (Text.natOfDigits? cs).bind fun n => if n = 0 then some 0 else none
  | _ => Text.count? s

/-- The name of a file or folder is not empty. -/
def path? (s : String) : Option String :=
  if s.isEmpty then none else some s

/-- A command that is its name and no words. -/
def bare (names : List String) (c : Command) : Form Command where
  names := names
  switches := []
  read a := if a.words.isEmpty then some c else none

def loadCatalogForm : Form Command where
  names := ["load-catalog", "lc"]
  switches := []
  read a := do
    let [file] := a.words | none
    return .loadCatalog (← path? file)

def contentsForm : Form Command where
  names := ["show"]
  switches := []
  read a := do
    let [name] := a.words | none
    return .contents name

def createForm : Form Command where
  names := ["create", "n"]
  switches := [parentSwitch, authorSwitch, commentSwitch]
  read a := do
    let [name] := a.words | none
    return .create
      { name
        parent := a.value? parentSwitch.long
        author := (a.value? authorSwitch.long).getD ""
        comment := (a.value? commentSwitch.long).getD "" }

def renameSwitch : Switch := { long := "rename" }
def annotationsSwitch : Switch := { long := "annotations" }
def inUseSwitch : Switch := { long := "in-use" }

def updateForm : Form Command where
  names := ["update"]
  switches := [renameSwitch, authorSwitch, commentSwitch, annotationsSwitch, inUseSwitch]
  read a := do
    let [name] := a.words | none
    let inUse ← read? a inUseSwitch none fun s => (bool? s).map some
    return .update name
      { name := a.value? renameSwitch.long
        author := a.value? authorSwitch.long
        comment := a.value? commentSwitch.long
        annotations := a.value? annotationsSwitch.long
        inUse }

/-- A command on copies of a card: the set, the card, a printing, and how many. -/
def copiesForm (names : List String) (c : String → String → Option String → Nat → Command) :
    Form Command where
  names := names
  switches := [expansionSwitch, countSwitch]
  read a := do
    let [set, card] := a.words | none
    return c set card (a.value? expansionSwitch.long) (← read? a countSwitch 1 count?)

def reparentForm : Form Command where
  names := ["reparent", "mv"]
  switches := [parentSwitch]
  read a := do
    let [name] := a.words | none
    return .reparent name (a.value? parentSwitch.long)

def toSwitch : Switch := { long := "to" }

def reparentChildrenForm : Form Command where
  names := ["reparent-children"]
  switches := [toSwitch]
  read a := do
    let [source] := a.words | none
    return .reparentChildren source (a.value? toSwitch.long)

def forceSwitch : Switch := { long := "force", short := some 'f', takesValue := false }

def deleteForm : Form Command where
  names := ["delete"]
  switches := [forceSwitch]
  read a := do
    let [name] := a.words | none
    return .delete name (a.given forceSwitch.long)

def nameSwitch : Switch := { long := "name" }
def onConflictSwitch : Switch := { long := "on-conflict" }

def importForm : Form Command where
  names := ["import"]
  switches := [nameSwitch, parentSwitch, onConflictSwitch]
  read a := do
    let [file] := a.words | none
    return .importList (← path? file) (a.value? nameSwitch.long) (a.value? parentSwitch.long)
      (← read? a onConflictSwitch .fail ImportPolicy.ofName?)

def valuesForm : Form Command where
  names := ["values"]
  switches := []
  read a := do
    let [keyword] := a.words | none
    return .values keyword

def groupSwitch : Switch := { long := "group", short := some 'g' }

def cardsForm : Form Command where
  names := ["cards"]
  switches := [filterSwitch, groupSwitch]
  read a := do
    let [] := a.words | none
    let grouping ← read? a groupSwitch none fun s => (Grouping.ofText? s).map some
    return .cards (a.values filterSwitch.long) grouping

def columnsSwitch : Switch := { long := "columns", short := some 'c', repeats := true }

def tableForm : Form Command where
  names := ["table"]
  switches := [filterSwitch, columnsSwitch]
  read a := do
    let [] := a.words | none
    return .table (a.values filterSwitch.long)
      ((a.values columnsSwitch.long).flatMap (Text.split ','))

def fromFilterForm : Form Command where
  names := ["from-filter"]
  switches := [filterSwitch, parentSwitch]
  read a := do
    let [name] := a.words | none
    let first :: more := a.values filterSwitch.long | none
    return .fromFilter { name, parent := a.value? parentSwitch.long } (first :: more)

/-- The children come after the parent, and switches may not leave one of them by itself. -/
def independenceForm : Form Command where
  names := ["independence"]
  switches := []
  read a := do
    let parent :: children := a.words | none
    let runs := match a.runs.filter (!·.isEmpty) with
      | [] => []
      | run :: runs => run.drop 1 :: runs
    let runs := runs.filter (!·.isEmpty)
    if runs.isEmpty || runs.any (·.length < 2) then none
    return .independence parent children

def forms : List (Form Command) :=
  [loadCatalogForm, bare ["list", "ls"] .list, contentsForm, createForm, updateForm,
    copiesForm ["add"] .add, copiesForm ["remove", "rm"] .remove, reparentForm,
    reparentChildrenForm, deleteForm, bare ["repair"] .repair, importForm,
    bare ["filters"] .filters, valuesForm, cardsForm, tableForm, fromFilterForm,
    independenceForm, bare ["config"] .settings]

/-- What is said when the arguments make no command. -/
def usage : String :=
  "Usage: sutekh [--data DIR] [--json] [-v] [COMMAND]\nCommands: " ++
    Text.join ", " (forms.filterMap (·.names.head?)) ++ "\n"

end Command

/-- What a whole command line asks for. -/
structure Invocation where
  /-- The folder of the collection, when it is not the usual one. -/
  folder : Option String
  json : Bool
  command : Command
  deriving DecidableEq, Repr

/-- Reads a command line; without a command the card sets are listed. -/
def Invocation.ofArguments? (args : List String) : Option Invocation := do
  let r ← Reading.ofArguments? Command.generalSwitches Command.forms args
  let command ← match r.form with
    | none => some .list
    | some form => form.read r.after
  let folders := r.before.values Command.dataSwitch.long ++ r.after.values Command.dataSwitch.long
  if folders.any String.isEmpty then none
  return ⟨r.generalValue? Command.dataSwitch.long, r.generalGiven Command.jsonSwitch.long, command⟩

end CardBinder.CommandLine
