/-! TOML values, the rules by which a document builds its tables, and laying one table over another. -/

namespace CardBinder

/-- How a table came to be, which decides what may still be added to it. -/
inductive Opening where
  /-- Written between braces. -/
  | closed
  | header
  /-- Only named on the way to another table. -/
  | implied
  /-- Made by a dotted key. -/
  | dotted
  deriving DecidableEq, Repr, Inhabited

inductive Toml where
  | text (s : String)
  | bool (b : Bool)
  /-- A number or a date, which no setting is. -/
  | other
  /-- A list; one that `grows` has its tables under headers. -/
  | list (grows : Bool) (items : List Toml)
  | table (opening : Opening) (fields : List (String × Toml))
  deriving Inhabited, Repr

namespace Toml

/-- The fields of a table, no key twice. -/
abbrev Fields := List (String × Toml)

namespace Fields

/-- Gives a key its value, in the place of the one it had. -/
def put (fields : Fields) (key : String) (v : Toml) : Fields :=
  if fields.any (·.1 == key) then fields.map fun (k, w) => if k == key then (k, v) else (k, w)
  else fields ++ [(key, v)]

/-- Changes the table that a path leads to. Tables that are not there are made as `made`; a dotted key
does not reach into a table that has a header. -/
def within? (made : Opening) (change : Opening → Fields → Option Fields) (opening : Opening) :
    List String → Fields → Option Fields
  | [], fields => change opening fields
  | key :: path, fields =>
    match fields.lookup key with
    | none => do return fields.put key (.table made (← within? made change made path []))
    | some (.table o inner) =>
      if o == .closed || (made == .dotted && o == .header) then none
      else do return fields.put key (.table o (← within? made change o path inner))
    | some (.list true items) =>
      match items.getLast? with
      | some (.table o inner) => do
        let last := .table o (← within? made change o path inner)
        return fields.put key (.list true (items.dropLast ++ [last]))
      | _ => none
    | some _ => none

/-- Gives a new key of the table at hand its value; above it a dotted key stands in tables of its kind. -/
def define? (above : List String) (key : String) (v : Toml) (opening : Opening) (fields : Fields) :
    Option Fields :=
  within? .dotted (fun o fs =>
    if (o != .dotted && !above.isEmpty) || fs.any (·.1 == key) then none else some (fs ++ [(key, v)]))
    opening above fields

/-- Opens the table of a header, which has had none before. -/
def openTable? (above : List String) (key : String) (fields : Fields) : Option Fields :=
  within? .implied (fun _ fs =>
    match fs.lookup key with
    | none => some (fs ++ [(key, .table .header [])])
    | some (.table .implied inner) => some (fs.put key (.table .header inner))
    | some _ => none)
    .header above fields

/-- Opens one more table of a list. -/
def openItem? (above : List String) (key : String) (fields : Fields) : Option Fields :=
  within? .implied (fun _ fs =>
    match fs.lookup key with
    | none => some (fs ++ [(key, .list true [.table .header []])])
    | some (.list true items) => some (fs.put key (.list true (items ++ [.table .header []])))
    | some _ => none)
    .header above fields

end Fields

mutual

/-- The second value on top of the first: tables are joined, anything else takes its place. -/
def overlay (below : Toml) : Toml → Toml
  | .table o fields =>
    match below with
    | .table _ lower => .table o (overlayFields lower fields)
    | _ => .table o fields
  | v => v

/-- The fields of two tables, of which the second goes first. -/
def overlayFields (lower : Fields) : Fields → Fields
  | [] => lower
  | (key, v) :: rest =>
    overlayFields (lower.put key (match lower.lookup key with
      | some w => overlay w v
      | none => v)) rest

end

end Toml
end CardBinder
