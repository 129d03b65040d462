import CardBinder.Json.Basic
import CardBinder.Resolver.Strategy

/-! What can be set up about a collection, and the values that hold without a settings file. -/

namespace CardBinder

structure Settings where
  /-- The document of the collection, in its folder. -/
  dataFile : String := "sutekh.json"
  /-- How the card names of imported lists are looked up. -/
  lookup : LookupMode := .bestGuess
  /-- Whether loops of the hierarchy are broken when a collection is opened. -/
  repairLoops : Bool := true
  logLevel : String := "warn"
  deriving DecidableEq, Repr, Inhabited

namespace Settings

def extension : String := ".json"

/-- The name of the document, which always ends in `.json`. -/
def documentName (s : Settings) : String :=
  if extension.toList.isSuffixOf s.dataFile.toList then s.dataFile else s.dataFile ++ extension

def toJson (s : Settings) : Json :=
  .object
    [("data_file", .text s.dataFile),
      ("lookup", .text s.lookup.name),
      ("repair_loops_on_open", .bool s.repairLoops),
      ("log_level", .text s.logLevel)]

def boolText (b : Bool) : String := if b then "true" else "false"

/-- One line for each setting. -/
def text (s : Settings) : String :=
  "data_file = " ++ s.dataFile ++ "\nlookup = " ++ s.lookup.name ++
    "\nrepair_loops_on_open = " ++ boolText s.repairLoops ++ "\nlog_level = " ++ s.logLevel ++ "\n"

end Settings
end CardBinder
