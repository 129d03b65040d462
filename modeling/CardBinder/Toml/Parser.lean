import CardBinder.Toml.Basic
import CardBinder.Toml.Scalar

/-! Reading TOML text; any departure from the grammar refuses the whole text. -/

namespace CardBinder.Toml

def isKeyChar (c : Char) : Bool :=
  c.isAlphanum || c == '_' || c == '-'

/-- One part of a key. -/
def keyPart? (cs : List Char) : Option (String × List Char) :=
  match cs.takeWhile isKeyChar with
  | [] => (quoted? cs).map fun (key, rest) => (String.ofList key, rest)
  | key => some (String.ofList key, cs.dropWhile isKeyChar)

/-- The parts of a key: those above, and the last. -/
def key? : Nat → List Char → Option ((List String × String) × List Char)
  | 0, _ => none
  | fuel + 1, cs => do
    let (part, rest) ← keyPart? (skipBlanks cs)
    match skipBlanks rest with
    | '.' :: more => do
      let ((above, last), rest) ← key? fuel more
      return ((part :: above, last), rest)
    | rest => return (([], part), rest)

/-- Blanks, line breaks and comments, as they stand between the items of a list. -/
def skipLines : Nat → List Char → List Char
  | 0, cs => cs
  | fuel + 1, cs =>
    match skipSpace cs with
    | '#' :: cs => skipLines fuel (skipComment ('#' :: cs))
    | cs => cs

mutual

def value? : Nat → List Char → Option (Toml × List Char)
  | 0, _ => none
  | fuel + 1, cs =>
    match cs with
    | '[' :: cs => (items? fuel cs).map fun (vs, rest) => (.list false vs, rest)
    | '\x7b' :: cs =>
      match skipBlanks cs with
      | '\x7d' :: rest => some (.table .closed [], rest)
      | cs => (pairs? fuel [] cs).map fun (fs, rest) => (.table .closed fs, rest)
    | '"' :: _ => (anyText? cs).map fun (s, rest) => (.text (String.ofList s), rest)
    | '\x27' :: _ => (anyText? cs).map fun (s, rest) => (.text (String.ofList s), rest)
    | _ =>
      if "true".toList.isPrefixOf cs then some (.bool true, cs.drop 4)
      else if "false".toList.isPrefixOf cs then some (.bool false, cs.drop 5)
      else (plainScalar? cs).map fun rest => (.other, rest)

/-- The items of a list up to its closing bracket; a comma may follow the last one. -/
def items? : Nat → List Char → Option (List Toml × List Char)
  | 0, _ => none
  | fuel + 1, cs =>
    match skipLines cs.length cs with
    | ']' :: rest => some ([], rest)
    | cs =>
      (value? fuel cs).bind fun (v, rest) =>
        match skipLines rest.length rest with
        | ',' :: rest => (items? fuel rest).map fun (vs, rest) => (v :: vs, rest)
        | ']' :: rest => some ([v], rest)
        | _ => none

/-- The fields of a table up to its closing brace, added to those before; all on one line. -/
def pairs? : Nat → Fields → List Char → Option (Fields × List Char)
  | 0, _, _ => none
  | fuel + 1, fields, cs =>
    (key? (cs.length + 1) cs).bind fun ((above, last), rest) =>
      match rest with
      | '=' :: rest =>
        (value? fuel (skipBlanks rest)).bind fun (v, rest) =>
          (fields.define? above last v .closed).bind fun fields =>
            match skipBlanks rest with
            | ',' :: rest => pairs? fuel fields rest
            | '\x7d' :: rest => some (fields, rest)
            | _ => none
      | _ => none

end

/-- A document as far as it is read, and the path of the table that its entries go to. -/
structure Draft where
  header : List String := []
  fields : Fields := []

namespace Draft

/-- A header between single or double brackets. -/
def header? (d : Draft) (cs : List Char) : Option (Draft × List Char) := do
  let (listed, cs) := match cs with
    | '[' :: cs => (true, cs)
    | cs => (false, cs)
  let ((above, last), cs) ← key? (cs.length + 1) cs
  let ']' :: cs := cs | none
  let cs ← if listed then mark? ']' cs else some cs
  let fields ← if listed then d.fields.openItem? above last else d.fields.openTable? above last
  return ({ header := above ++ [last], fields }, ← lineEnd? cs)

/-- An entry of the table at hand. -/
def entry? (d : Draft) (cs : List Char) : Option (Draft × List Char) := do
  let ((above, last), cs) ← key? (cs.length + 1) cs
  let '=' :: cs := cs | none
  let cs := skipBlanks cs
  let (v, cs) ← value? (2 * cs.length + 2) cs
  let fields ← d.fields.within? .implied (Fields.define? above last v) .header d.header
  return ({ d with fields }, ← lineEnd? cs)

/-- Every line of a text, at most `fuel` of them. -/
def lines? (d : Draft) : Nat → List Char → Option Draft
  | _, [] => some d
  | 0, _ => none
  | fuel + 1, cs =>
    match lineEnd? cs with
    | some rest => lines? d fuel rest
    | none => do
      let (d, rest) ← match skipBlanks cs with
        | '[' :: cs => d.header? cs
        | cs => d.entry? cs
      lines? d fuel rest

end Draft

/-- The table that a text holds; a byte order mark may stand before it. -/
def parse? (s : String) : Option Fields :=
  let cs := match s.toList with
    | '\ufeff' :: cs => cs
    | cs => cs
  (Draft.lines? {} cs.length cs).map (·.fields)

end CardBinder.Toml
