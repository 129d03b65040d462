import CardBinder.Filter.Vocabulary
import CardBinder.Listing
import CardBinder.Report
import CardBinder.Supply
import CardBinder.Text.Width

/-! Answers as plain text, in columns of a terminal. -/

namespace CardBinder.CommandLine.Layout
open Text (join padLeft padRight width)

def lines (texts : List String) : String :=
  String.join (texts.map (· ++ "\n"))

def indent : String := "  "

def indentBy (depth : Nat) : String :=
  String.join (List.replicate depth indent)

def columnWidth (texts : List String) : Nat :=
  (texts.map width).foldl max 0

/-- A number with its noun. -/
def counted (n : Nat) (noun : String) : String :=
  toString n ++ " " ++ noun ++ (if n = 1 then "" else "s")

def messages (ms : List Message) : String :=
  lines (ms.map (·.content))

def treeLabel (e : TreeEntry) : String :=
  indentBy e.depth ++ e.cardSet.name

def noSets : String :=
  "No card sets yet, create one with \x60sutekh create\x60\n"

/-- The hierarchy, children under their parents, with the sizes in a column. -/
def tree (entries : List TreeEntry) : String :=
  let labelWidth := columnWidth (entries.map treeLabel)
  if entries.isEmpty then noSets
  else lines (entries.map fun e =>
    padRight (treeLabel e) labelWidth ++ indent ++ counted e.cardCount "card" ++
      (if e.cardSet.inUse then " [in use]" else ""))

def copies (l : ContentLine) : String :=
  toString l.count ++ "x"

/-- One line of the contents of a set; names are filled up only where an expansion follows. -/
def contentLine (countWidth nameWidth : Nat) (l : ContentLine) : String :=
  indent ++ padLeft (copies l) countWidth ++ " " ++
    match l.expansion with
    | some expansion => padRight l.name nameWidth ++ indent ++ expansion
    | none => l.name

def contents (name : String) (ls : List ContentLine) : String :=
  let total := countSum (ls.map (·.count))
  let countWidth := columnWidth (ls.map copies)
  let nameWidth := columnWidth (ls.map (·.name))
  lines ((name ++ " (" ++ counted total "card" ++ ")") ::
    (if ls.isEmpty then [indent ++ "(empty)"] else ls.map (contentLine countWidth nameWidth)))

/-- Names of cards under a heading, or under none. -/
structure NameGroup where
  heading : Option String
  names : List String
  deriving DecidableEq, Repr

def NameGroup.toJson (g : NameGroup) : Json :=
  .object [("group", Json.optional .text g.heading), ("cards", Json.texts g.names)]

def nameGroup (g : NameGroup) : String :=
  lines ((g.heading.getD "(none)" ++ " (" ++ toString g.names.length ++ ")") ::
    g.names.map (indent ++ ·))

/-- Groups with their headings and an empty line between them; a single group without a heading is a
list of names. -/
def nameGroups (groups : List NameGroup) : String :=
  if groups.all (·.names.isEmpty) then "No cards match\n"
  else match groups with
    | [⟨none, names⟩] => lines names
    | groups => join "\n" (groups.map nameGroup)

def inputHint : FilterInput → String
  | .list => "values"
  | .withList => "'<a> with <b>' values"
  | .text => "text"
  | .flag => "no value"

def filters (entries : List FilterEntry) : String :=
  let keywordWidth := columnWidth (entries.map (·.keyword))
  lines (entries.map fun e =>
    padRight e.keyword keywordWidth ++ indent ++ e.description ++ " (" ++ inputHint e.input ++ ")")

def values (vs : List String) : String :=
  if vs.isEmpty then "This filter takes free text or no value\n" else lines vs

def shortfall (s : Shortfall) : String :=
  indent ++ s.card ++
    (match s.expansion with
      | some expansion => " [" ++ expansion ++ "]"
      | none => "") ++
    ": need " ++ toString s.needed ++ ", have " ++ toString s.available

def supply (r : SupplyReport) : String :=
  let children := join ", " r.children
  if r.isIndependent then
    lines [children ++ " can all be built from " ++ r.parent ++ " at the same time"]
  else
    lines ((children ++ " cannot all be built from " ++ r.parent ++ ":") ::
      r.shortfalls.map shortfall)

end CardBinder.CommandLine.Layout
