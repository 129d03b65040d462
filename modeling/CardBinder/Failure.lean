import CardBinder.Entity
import CardBinder.Lookup.Kind
import CardBinder.Text.Cut

/-! The ways an operation can fail, and what is said about each. -/

namespace CardBinder

/-- What a name was looked up as. -/
inductive Sought where
  | card
  | filter
  | entry (kind : LookupKind)
  deriving DecidableEq, Repr, Inhabited

def Sought.label : Sought → String
  | .card => "Card"
  | .filter => "Filter"
  | .entry kind => kind.label

/-- Why a file could not be read or written. -/
inductive FileProblem where
  | missing
  /-- A folder of the path is a file. -/
  | notFolder
  | isFolder
  /-- A folder cannot be made where a file is. -/
  | alreadyThere
  | nameTooLong
  | nulByte
  | other (text : String)
  deriving DecidableEq, Repr

def FileProblem.message : FileProblem → String
  | .missing => "No such file or directory (os error 2)"
  | .notFolder => "Not a directory (os error 20)"
  | .isFolder => "Is a directory (os error 21)"
  | .alreadyThere => "File exists (os error 17)"
  | .nameTooLong => "File name too long (os error 36)"
  | .nulByte => "file name contained an unexpected NUL byte"
  | .other text => text

/-- No file can be under such a path. -/
def FileProblem.isAbsence : FileProblem → Bool
  | .missing | .notFolder | .nameTooLong | .nulByte => true
  | _ => false

inductive Failure where
  | notFound (sought : Sought) (name : String)
  | setNotFound (name : String)
  | setExists (name : String)
  | loopIntroduced (set parent : String) (chain : List String)
  | loopDetected (chain : List String)
  | invalidRemoval (name : String) (expansion : Option String) (requested available : Nat)
  | missingName
  | emptyHolder (name : String)
  | unsupportedEntity (filter : String) (entity : Entity)
  | invalidFilterValue (filter value : String)
  | invalidRequest (reason : String)
  | unknownColumn (column : String)
  | duplicateCard (name : String)
  | file (problem : FileProblem)
  | unreadableDocument
  | store (reason : String)
  /-- A counter has given out its last number. No operation answers for it: the program stops, and what
  was saved before is left. -/
  | outOfNumbers
  deriving DecidableEq, Repr, Inhabited

namespace Failure

def chainText (chain : List String) : String :=
  Text.join " -> " chain

def message : Failure → String
  | .notFound sought name => sought.label ++ " not found: " ++ name
  | .setNotFound name => "Card set not found: " ++ name
  | .setExists name => "Card set already exists: " ++ name
  | .loopIntroduced set parent chain =>
    "Changing the parent of '" ++ set ++ "' to '" ++ parent ++ "' would create a loop (" ++
      chainText chain ++ "); parent left unchanged"
  | .loopDetected chain => "Card set hierarchy contains a loop: " ++ chainText chain
  | .invalidRemoval name expansion requested available =>
    "Cannot remove " ++ toString requested ++ " x '" ++ name ++ "' (" ++
      expansion.getD "no expansion" ++ "): only " ++ toString available ++ " present"
  | .missingName => "Card set name must be set before the card set can be created"
  | .emptyHolder name => "No cards to add to card set '" ++ name ++ "'"
  | .unsupportedEntity filter entity =>
    "Filter '" ++ filter ++ "' cannot select " ++ entity.label ++ " rows"
  | .invalidFilterValue filter value =>
    "Invalid value for filter '" ++ filter ++ "': " ++ value
  | .invalidRequest reason => "Invalid request: " ++ reason
  | .unknownColumn column => "Unknown column: " ++ column
  | .duplicateCard name => "Duplicate card: " ++ name
  | .file problem => "IO error: " ++ problem.message
  | .unreadableDocument => "Serialization error"
  | .store reason => "Store error: " ++ reason
  | .outOfNumbers => "attempt to add with overflow"

/-- A name that is not there, which a lenient reader may pass over. -/
def isNotFound : Failure → Bool
  | .notFound .. => true
  | .setNotFound _ => true
  | _ => false

end Failure

abbrev Outcome := Except Failure

end CardBinder
