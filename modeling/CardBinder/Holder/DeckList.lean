import CardBinder.Holder.Basic
import CardBinder.Names
import CardBinder.Text.Digits

/-! Plain deck lists: a card a line, with a count in front and an expansion in brackets behind, and a few lines about the deck. -/

namespace CardBinder
open Text (isBlank)

/-- What a line says about a card, as written. -/
structure DeckLine where
  count : Option (List Char)
  name : List Char
  expansion : Option (List Char)
  deriving DecidableEq, Repr

namespace DeckLine

/-- What follows a blank and all blanks after it. -/
def afterBlanks? : List Char → Option (List Char)
  | [] => none
  | c :: cs => if isBlank c then some (cs.dropWhile isBlank) else none

/-- What follows the digits of a count: blanks, with an x among them or not, have to come first. -/
def afterCount? (cs : List Char) : Option (List Char) :=
  match cs.dropWhile isBlank with
  | [] => none
  | c :: rest =>
    if c == 'x' || c == 'X' then
      match afterBlanks? rest with
      | some name => some name
      | none => afterBlanks? cs
    else afterBlanks? cs

/-- The count in front of a line and the rest; digits that are part of the name stay there. -/
def cutCount (cs : List Char) : Option (List Char) × List Char :=
  let digits := cs.takeWhile Text.isDecimalDigit
  if digits.isEmpty then (none, cs)
  else match afterCount? (cs.dropWhile Text.isDecimalDigit) with
    | some rest => (some digits, rest)
    | none => (none, cs)

/-- The text up to a bracket that closes at the very end and nowhere before. -/
def closedText? (cs : List Char) : Option (List Char) :=
  let inner := cs.dropLast
  if cs.getLast? == some ']' && !inner.isEmpty && !inner.contains ']' then some inner else none

/-- What stands before the first bracket that closes at the end of the line, and what it holds. -/
def cutBracket? : List Char → Option (List Char × List Char)
  | [] => none
  | c :: cs =>
    match if c == '[' then closedText? cs else none with
    | some inner => some ([], inner)
    | none => (cutBracket? cs).map fun (before, inner) => (c :: before, inner)

/-- The name of a line, one character at least, and the expansion in brackets behind it. -/
def cutExpansion : List Char → List Char × Option (List Char)
  | [] => ([], none)
  | c :: cs =>
    match cutBracket? cs with
    | some (before, inner) => (c :: before, some (Text.trimChars inner))
    | none => (c :: cs, none)

def ofChars (cs : List Char) : DeckLine :=
  let (count, rest) := cutCount cs
  let (name, expansion) := cutExpansion rest
  ⟨count, Text.trimChars name, expansion⟩

end DeckLine

namespace Holder

/-- Stages what a card line says; without a count it is one copy. -/
def addDeckLine (h : Holder) (line : List Char) : Outcome Holder := do
  let l := DeckLine.ofChars line
  let count ← match l.count with
    | none => Except.ok 1
    | some digits =>
      match Text.countOfChars? digits with
      | some n => .ok n
      | none => .error (.invalidRequest
          ("invalid card count in line '" ++ String.ofList line ++ "'"))
  h.add count (String.ofList l.name) (l.expansion.map String.ofList)

/-- A line about the deck, "key: value"; an unknown key is part of a card name. -/
def setDetail? (h : Holder) (line : List Char) : Option Holder := do
  let (key, value) ← Text.cutFirstChars [':'] line
  let value := String.ofList (Text.trimChars value)
  match canonicalName (String.ofList key) with
  | "deck name" => some { h with name := some value }
  | "name" => some { h with name := some value }
  | "author" => some { h with author := value }
  | "created by" => some { h with author := value }
  | "description" => some { h with comment := value }
  | "parent" => some { h with parent := some value }
  | _ => none

/-- A trimmed line of a deck list; blank lines and comments say nothing. -/
def addLine (h : Holder) (line : List Char) : Outcome Holder :=
  match line with
  | [] => .ok h
  | '#' :: _ => .ok h
  | _ =>
    match h.setDetail? line with
    | some h => .ok h
    | none => h.addDeckLine line

/-- The holder that a deck list describes. -/
def ofDeckList (text : String) : Outcome Holder :=
  ((Text.splitChars '\n' text.toList).map Text.trimChars).foldlM addLine empty

end Holder
end CardBinder
