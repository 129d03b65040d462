import CardBinder.Text.Cut

/-! Tables as comma separated values. -/

namespace CardBinder.Csv

/-- A comma, a quote or a line feed puts a field in quotes. -/
def needsQuotes (c : Char) : Bool :=
  c == ',' || c == '"' || c == '\n'

def quoted (cs : List Char) : List Char :=
  '"' :: cs.flatMap (fun c => if c == '"' then ['"', '"'] else [c]) ++ ['"']

def fieldChars (cs : List Char) : List Char :=
  if cs.any needsQuotes then quoted cs else cs

def field (s : String) : String :=
  String.ofList (fieldChars s.toList)

def record (fields : List String) : String :=
  Text.join "," (fields.map field) ++ "\n"

def cardNameTitle : String := "Card Name"

/-- A line of titles, then one line for each card with its values. -/
def table (columns : List String) (rows : List (String × List Int)) : String :=
  record (cardNameTitle :: columns) ++
    String.join (rows.map fun (name, values) => record (name :: values.map toString))

end CardBinder.Csv
