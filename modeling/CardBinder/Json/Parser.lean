import CardBinder.Json.Basic

/-! Reading JSON text; any departure from the grammar refuses the whole text. -/

namespace CardBinder.Json

def isSpace (c : Char) : Bool :=
  c == ' ' || c == '\n' || c == '\t' || c == '\r'

def skipSpaces (cs : List Char) : List Char :=
  cs.dropWhile isSpace

def hexValue? (c : Char) : Option Nat :=
  if '0' ≤ c && c ≤ '9' then some (c.toNat - 48)
  else if 'a' ≤ c && c ≤ 'f' then some (c.toNat - 87)
  else if 'A' ≤ c && c ≤ 'F' then some (c.toNat - 55)
  else none

/-- Four hexadecimal digits. -/
def codeUnit? : List Char → Option (Nat × List Char)
  | a :: b :: c :: d :: cs => do
    let a ← hexValue? a
    let b ← hexValue? b
    let c ← hexValue? c
    let d ← hexValue? d
    pure (((a * 16 + b) * 16 + c) * 16 + d, cs)
  | _ => none

/-- The character after `\u`: one code unit, or a high and a low surrogate. Half of such a pair is no
character. -/
def escapedUnit? (cs : List Char) : Option (Option Char × List Char) := do
  let (hi, rest) ← codeUnit? cs
  if 0xD800 ≤ hi && hi < 0xDC00 then
    match rest with
    | '\\' :: 'u' :: more =>
      let (lo, after) ← codeUnit? more
      if 0xDC00 ≤ lo && lo < 0xE000 then
        pure (some (Char.ofNat (0x10000 + (hi - 0xD800) * 1024 + (lo - 0xDC00))), after)
      else pure (none, rest)
    | _ => pure (none, rest)
  else if 0xDC00 ≤ hi && hi < 0xE000 then pure (none, rest)
  else pure (some (Char.ofNat hi), rest)

/-- The character after a backslash. -/
def escaped? : List Char → Option (Option Char × List Char)
  | '"' :: cs => some ('"', cs)
  | '\\' :: cs => some ('\\', cs)
  | '/' :: cs => some ('/', cs)
  | 'b' :: cs => some ('\x08', cs)
  | 'f' :: cs => some ('\x0c', cs)
  | 'n' :: cs => some ('\n', cs)
  | 'r' :: cs => some ('\r', cs)
  | 't' :: cs => some ('\t', cs)
  | 'u' :: cs => escapedUnit? cs
  | _ => none

/-- The rest of a string after its opening quote, and what follows the closing one; a string with half
of a surrogate pair has no text. -/
def stringTail? (acc : List (Option Char)) : Nat → List Char → Option (Option String × List Char)
  | 0, _ => none
  | _ + 1, [] => none
  | fuel + 1, c :: cs =>
    if c == '"' then some ((acc.reverse.mapM id).map String.ofList, cs)
    else if c == '\\' then
      (escaped? cs).bind fun (e, rest) => stringTail? (e :: acc) fuel rest
    else if c.toNat < 0x20 then none
    else stringTail? (some c :: acc) fuel cs

def digits (cs : List Char) : List Char × List Char :=
  (cs.takeWhile Char.isDigit, cs.dropWhile Char.isDigit)

def natOfDigits (ds : List Char) : Nat :=
  ds.foldl (fun n d => 10 * n + (d.toNat - 48)) 0

/-- The digits before a fraction; a leading zero stands alone. -/
def wholePart? (cs : List Char) : Option (List Char × List Char) :=
  match digits cs with
  | ([], _) => none
  | (['0'], rest) => some (['0'], rest)
  | ('0' :: _, _) => none
  | (ds, rest) => some (ds, rest)

def fraction? : List Char → Option (List Char × List Char)
  | '.' :: cs =>
    match digits cs with
    | ([], _) => none
    | (ds, rest) => some ('.' :: ds, rest)
  | cs => some ([], cs)

def exponentDigits? (written : List Char) (cs : List Char) : Option (List Char × List Char) :=
  match digits cs with
  | ([], _) => none
  | (ds, rest) => some (written ++ ds, rest)

def exponent? : List Char → Option (List Char × List Char)
  | e :: cs =>
    if e == 'e' || e == 'E' then
      match cs with
      | '+' :: cs => exponentDigits? [e, '+'] cs
      | '-' :: cs => exponentDigits? [e, '-'] cs
      | cs => exponentDigits? [e] cs
    else some ([], e :: cs)
  | [] => some ([], [])

/-- A number; minus zero counts as written with a fraction. -/
def number? (cs : List Char) : Option (Json × List Char) := do
  let (negative, cs) := match cs with
    | '-' :: cs => (true, cs)
    | cs => (false, cs)
  let (whole, cs) ← wholePart? cs
  let (frac, cs) ← fraction? cs
  let (exp, cs) ← exponent? cs
  let sign := if negative then ['-'] else []
  let n := natOfDigits whole
  if frac.isEmpty && exp.isEmpty && !(negative && n == 0) then
    pure (.int (if negative then -(n : Int) else n), cs)
  else
    pure (.decimal (String.ofList (sign ++ whole ++ frac ++ exp)), cs)

def literal? (word : String) (v : Json) (cs : List Char) : Option (Json × List Char) :=
  if word.toList.isPrefixOf cs then some (v, cs.drop word.length) else none

def ofString : Option String → Json
  | some s => .text s
  | none => .unreadable

/-- An object, when each of its keys has a text. -/
def ofFields (fields : List (Option String × Json)) : Json :=
  match fields.mapM fun (key, v) => key.map (·, v) with
  | some named => .object named
  | none => .unreadable

mutual

/-- One value from the start of the text, blanks before it skipped. -/
def value? : Nat → List Char → Option (Json × List Char)
  | 0, _ => none
  | fuel + 1, cs =>
    match skipSpaces cs with
    | '[' :: cs =>
      match skipSpaces cs with
      | ']' :: cs => some (.list [], cs)
      | cs => (items? fuel cs).map fun (vs, rest) => (.list vs, rest)
    | '\x7b' :: cs =>
      match skipSpaces cs with
      | '\x7d' :: cs => some (.object [], cs)
      | cs => (fields? fuel cs).map fun (fs, rest) => (ofFields fs, rest)
    | '"' :: cs => (stringTail? [] fuel cs).map fun (s, rest) => (ofString s, rest)
    | 't' :: cs => literal? "true" (.bool true) ('t' :: cs)
    | 'f' :: cs => literal? "false" (.bool false) ('f' :: cs)
    | 'n' :: cs => literal? "null" .null ('n' :: cs)
    | cs => number? cs

/-- The items of a list up to its closing bracket. -/
def items? : Nat → List Char → Option (List Json × List Char)
  | 0, _ => none
  | fuel + 1, cs =>
    (value? fuel cs).bind fun (v, rest) =>
      match skipSpaces rest with
      | ',' :: rest => (items? fuel rest).map fun (vs, rest) => (v :: vs, rest)
      | ']' :: rest => some ([v], rest)
      | _ => none

/-- The fields of an object up to its closing brace. -/
def fields? : Nat → List Char → Option (List (Option String × Json) × List Char)
  | 0, _ => none
  | fuel + 1, cs =>
    match skipSpaces cs with
    | '"' :: cs =>
      (stringTail? [] fuel cs).bind fun (k, rest) =>
        match skipSpaces rest with
        | ':' :: rest =>
          (value? fuel rest).bind fun (v, rest) =>
            match skipSpaces rest with
            | ',' :: rest => (fields? fuel rest).map fun (fs, rest) => ((k, v) :: fs, rest)
            | '\x7d' :: rest => some ([(k, v)], rest)
            | _ => none
        | _ => none
    | _ => none

end

/-- The value that a whole text holds. -/
def parse? (text : String) : Option Json :=
  let cs := text.toList
  (value? (2 * cs.length + 2) cs).bind fun (v, rest) =>
    if (skipSpaces rest).isEmpty then some v else none

end CardBinder.Json
