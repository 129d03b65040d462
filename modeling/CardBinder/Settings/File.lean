import CardBinder.Settings.Basic
import CardBinder.Toml.Parser

/-! Settings as files give them: each file may set some of the keys, and a file that is not valid
leaves everything at its default. -/

namespace CardBinder

/-- A mode by its name, or by a table whose only key is its name and holds nothing. -/
def LookupMode.ofToml? : Toml → Option LookupMode
  | .text s => LookupMode.ofName? s
  | .table _ [(s, .table _ [])] => LookupMode.ofName? s
  | .table _ [(s, .list _ [])] => LookupMode.ofName? s
  | _ => none

namespace Settings

def fileName : String := "sutekh.toml"

/-- Takes over the value of a key; unknown keys and wrong values are refused. -/
def set? (s : Settings) (key : String) (v : Toml) : Option Settings :=
  match key, v with
  | "data_file", .text dataFile => some { s with dataFile }
  | "lookup", v => (LookupMode.ofToml? v).map fun lookup => { s with lookup }
  | "repair_loops_on_open", .bool repairLoops => some { s with repairLoops }
  | "log_level", .text logLevel => some { s with logLevel }
  | _, _ => none

def keys : List String := ["data_file", "lookup", "repair_loops_on_open", "log_level"]

/-- The entries of a file, all of them known. -/
def fileFields? (text : String) : Option Toml.Fields := do
  let fields ← Toml.parse? text
  if fields.all fun (key, _) => keys.contains key then return fields else none

/-- The settings of several files, of which a later one goes before an earlier one. -/
def ofFiles? (texts : List String) : Option Settings := do
  let files ← texts.mapM fileFields?
  (files.foldl Toml.overlayFields []).foldlM (fun s (key, v) => s.set? key v) {}

def ofFiles (texts : List String) : Settings :=
  (ofFiles? texts).getD {}

end Settings
end CardBinder
