import CardBinder.Json.Parser
import CardBinder.Text.Cut

/-! The parts of a TOML text that stand for themselves: blanks, quoted texts, numbers and dates. -/

namespace CardBinder.Toml

def skipBlanks (cs : List Char) : List Char :=
  cs.dropWhile fun c => c == ' ' || c == '\t'

/-- Control characters do not stand in texts and comments; a tab may. -/
def isPlain (c : Char) : Bool :=
  c == '\t' || (0x20 ≤ c.toNat && c.toNat != 0x7F)

def lineBreak? : List Char → Option (List Char)
  | '\n' :: cs => some cs
  | '\r' :: '\n' :: cs => some cs
  | _ => none

def skipComment : List Char → List Char
  | '#' :: cs => cs.dropWhile isPlain
  | cs => cs

/-- The rest of a line that holds nothing more than a comment. -/
def lineEnd? (cs : List Char) : Option (List Char) :=
  let rest := skipComment (skipBlanks cs)
  if rest.isEmpty then some [] else lineBreak? rest

/-- Blanks and line breaks; a carriage return alone is none. -/
def skipSpace : List Char → List Char
  | ' ' :: cs => skipSpace cs
  | '\t' :: cs => skipSpace cs
  | '\n' :: cs => skipSpace cs
  | '\r' :: '\n' :: cs => skipSpace cs
  | cs => cs

/-! ## Texts -/

def hexNumber? (cs : List Char) : Option Nat :=
  cs.foldlM (fun n c => (Json.hexValue? c).map (16 * n + ·)) 0

/-- A character by its number in `digits` hexadecimal digits. -/
def numbered? (digits : Nat) (cs : List Char) : Option (Char × List Char) := do
  if (cs.take digits).length < digits then none
  let n ← hexNumber? (cs.take digits)
  if h : n.isValidChar then some (Char.ofNatAux n h, cs.drop digits) else none

/-- The character after a backslash. -/
def escaped? : List Char → Option (Char × List Char)
  | 'b' :: cs => some ('\x08', cs)
  | 't' :: cs => some ('\t', cs)
  | 'n' :: cs => some ('\n', cs)
  | 'f' :: cs => some ('\x0c', cs)
  | 'r' :: cs => some ('\r', cs)
  | '"' :: cs => some ('"', cs)
  | '\\' :: cs => some ('\\', cs)
  | 'u' :: cs => numbered? 4 cs
  | 'U' :: cs => numbered? 8 cs
  | _ => none

/-- The rest of a text on one line, up to its closing mark; `escapes` tells whether a backslash does
anything. -/
def lineText? (mark : Char) (escapes : Bool) : Nat → List Char → Option (List Char × List Char)
  | 0, _ => none
  | _ + 1, [] => none
  | fuel + 1, c :: cs =>
    if c == mark then some ([], cs)
    else if escapes && c == '\\' then do
      let (e, cs) ← escaped? cs
      let (body, rest) ← lineText? mark escapes fuel cs
      return (e :: body, rest)
    else if isPlain c then
      (lineText? mark escapes fuel cs).map fun (body, rest) => (c :: body, rest)
    else none

/-- The rest of a text over several lines, up to three closing marks; one or two more belong to it. -/
def blockText? (mark : Char) (escapes : Bool) : Nat → List Char → Option (List Char × List Char)
  | 0, _ => none
  | fuel + 1, cs =>
    let marks := (cs.takeWhile (· == mark)).take 5
    if 3 ≤ marks.length then some (marks.drop 3, cs.drop marks.length)
    else match lineBreak? cs with
      | some cs => (blockText? mark escapes fuel cs).map fun (body, rest) => ('\n' :: body, rest)
      | none =>
        match cs with
        | [] => none
        | c :: cs =>
          if escapes && c == '\\' then
            match lineBreak? (skipBlanks cs) with
            | some cs => blockText? mark escapes fuel (skipSpace cs)
            | none => do
              let (e, cs) ← escaped? cs
              let (body, rest) ← blockText? mark escapes fuel cs
              return (e :: body, rest)
          else if isPlain c then
            (blockText? mark escapes fuel cs).map fun (body, rest) => (c :: body, rest)
          else none

/-- A text in quotes; with double quotes a backslash escapes. -/
def quoted? (cs : List Char) : Option (List Char × List Char) :=
  match cs with
  | '"' :: cs => lineText? '"' true (cs.length + 1) cs
  | '\x27' :: cs => lineText? '\x27' false (cs.length + 1) cs
  | _ => none

/-- A text between triple quotes; a line break right at its start is left out. -/
def block? (cs : List Char) : Option (List Char × List Char) :=
  let body (mark : Char) (escapes : Bool) (cs : List Char) :=
    blockText? mark escapes (cs.length + 1) ((lineBreak? cs).getD cs)
  match cs with
  | '"' :: '"' :: '"' :: cs => body '"' true cs
  | '\x27' :: '\x27' :: '\x27' :: cs => body '\x27' false cs
  | _ => none

/-- A text in any of the four quotings. -/
def anyText? (cs : List Char) : Option (List Char × List Char) :=
  match cs with
  | a :: b :: c :: _ => if (a == '"' || a == '\x27') && a == b && b == c then block? cs else quoted? cs
  | _ => quoted? cs

/-! ## Numbers -/

/-- One or more digits, with single underscores between them. -/
def isDigits (isDigit : Char → Bool) (cs : List Char) : Bool :=
  (Text.splitChars '_' cs).all fun group => !group.isEmpty && group.all isDigit

def unsigned : List Char → List Char
  | '+' :: cs => cs
  | '-' :: cs => cs
  | cs => cs

/-- Digits without a needless zero in front. -/
def isDecimal (cs : List Char) : Bool :=
  isDigits Char.isDigit cs && (cs.length == 1 || cs.head? != some '0')

def valueInBase (base : Nat) (cs : List Char) : Nat :=
  cs.foldl (fun n c => if c == '_' then n else base * n + (Json.hexValue? c).getD 0) 0

/-- The numbers below it, and it alone with a minus, have 64 bits. -/
def integerBound : Nat := 0x8000000000000000

/-- A whole number of 64 bits. -/
def isInteger (cs : List Char) : Bool :=
  let inBase (base : Nat) (ds : List Char) :=
    isDigits (fun c => (Json.hexValue? c).any (· < base)) ds && valueInBase base ds < integerBound
  match cs with
  | '0' :: 'x' :: ds => inBase 16 ds
  | '0' :: 'o' :: ds => inBase 8 ds
  | '0' :: 'b' :: ds => inBase 2 ds
  | _ =>
    let n := valueInBase 10 (unsigned cs)
    isDecimal (unsigned cs) && (n < integerBound || (cs.head? == some '-' && n == integerBound))

def isExponent : List Char → Bool
  | e :: cs => (e == 'e' || e == 'E') && isDigits Char.isDigit (unsigned cs)
  | [] => false

/-- A number with a fraction or an exponent, or one that is none. -/
def isFloat (cs : List Char) : Bool :=
  let isExp (c : Char) := c == 'e' || c == 'E'
  let cs := unsigned cs
  let whole := cs.takeWhile fun c => !isExp c && c != '.'
  cs == "inf".toList || cs == "nan".toList ||
    (isDecimal whole && match cs.drop whole.length with
      | '.' :: rest =>
        let fraction := rest.takeWhile (!isExp ·)
        let exponent := rest.drop fraction.length
        isDigits Char.isDigit fraction && (exponent.isEmpty || isExponent exponent)
      | rest => isExponent rest)

/-! ## Dates -/

/-- A number of so many digits. -/
def fixedNumber? (digits : Nat) (cs : List Char) : Option (Nat × List Char) :=
  let ds := cs.take digits
  if ds.length == digits && ds.all Char.isDigit then some (Json.natOfDigits ds, cs.drop digits) else none

/-- A number of two digits up to `greatest`. -/
def pairUpTo? (greatest : Nat) (cs : List Char) : Option (Nat × List Char) := do
  let (n, rest) ← fixedNumber? 2 cs
  if n ≤ greatest then return (n, rest) else none

def mark? (c : Char) : List Char → Option (List Char)
  | d :: cs => if c == d then some cs else none
  | [] => none

def daysOf (year month : Nat) : Nat :=
  let leap := year % 4 == 0 && (year % 100 != 0 || year % 400 == 0)
  if month == 2 then (if leap then 29 else 28)
  else if [4, 6, 9, 11].contains month then 30 else 31

/-- The rest after a date. -/
def date? (cs : List Char) : Option (List Char) := do
  let (year, cs) ← fixedNumber? 4 cs
  let (month, cs) ← pairUpTo? 12 (← mark? '-' cs)
  let (day, cs) ← pairUpTo? (daysOf year month) (← mark? '-' cs)
  if month == 0 || day == 0 then none else return cs

def secondsFraction? : List Char → Option (List Char)
  | '.' :: cs => if (cs.takeWhile Char.isDigit).isEmpty then none else some (cs.dropWhile Char.isDigit)
  | cs => some cs

/-- The rest after a time of day. -/
def time? (cs : List Char) : Option (List Char) := do
  let (_, cs) ← pairUpTo? 23 cs
  let (_, cs) ← pairUpTo? 59 (← mark? ':' cs)
  let (_, cs) ← pairUpTo? 60 (← mark? ':' cs)
  secondsFraction? cs

/-- The distance of a local time from the common one. -/
def isOffset : List Char → Bool
  | [] => true
  | [c] => c == 'Z' || c == 'z'
  | c :: cs =>
    (c == '+' || c == '-') && ((do
      let (_, cs) ← pairUpTo? 23 cs
      let (_, cs) ← pairUpTo? 59 (← mark? ':' cs)
      return cs.isEmpty) : Option Bool) == some true

/-- A date, a time, or both. -/
def isMoment (cs : List Char) : Bool :=
  match date? cs with
  | some [] => true
  | some (c :: rest) =>
    (c == 'T' || c == 't' || c == ' ') && (match time? rest with
      | some offset => isOffset offset
      | none => false)
  | none => time? cs == some []

/-- A number or a date; a blank may stand between a date and its time. -/
def plainScalar? (cs : List Char) : Option (List Char) :=
  let isPart (c : Char) := c.isAlphanum || c == '_' || c == '+' || c == '-' || c == '.' || c == ':'
  let word := cs.takeWhile isPart
  let rest := cs.drop word.length
  match (if date? word == some [] then mark? ' ' rest else none) with
  | some more =>
    let time := more.takeWhile isPart
    if isMoment (word ++ ' ' :: time) then some (more.drop time.length) else some rest
  | none => if isInteger word || isFloat word || isMoment word then some rest else none

end CardBinder.Toml
