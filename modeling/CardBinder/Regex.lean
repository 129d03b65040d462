import CardBinder.Text.Fold

/-! Regular expressions: the notation, as far as patterns need it, and the search in a text. -/

namespace CardBinder

namespace Regex

/-- What stands for one character. -/
inductive Class where
  | any
  | letter (c : Char)
  deriving DecidableEq, Repr

inductive Item where
  | start
  | finish
  | one (k : Class)
  | many (k : Class)
  deriving DecidableEq, Repr

end Regex

/-- Items that take the pieces of a part one after another. -/
abbrev Regex := List Regex.Item

namespace Regex

inductive Symbol where
  | start
  | finish
  | star
  | single (k : Class)
  deriving DecidableEq, Repr

/-- The characters that may stand behind a backslash, and then stand for themselves. -/
def marks : List Char :=
  ['\\', '.', '+', '*', '?', '(', ')', '|', '[', ']', '{', '}', '^', '$', '#', '&', '-', '~']

/-- The marks that mean something wherever they stand bare. -/
def operators : List Char :=
  ['\\', '.', '+', '*', '?', '(', ')', '|', '[', '{', '^', '$']

/-- A bare character. Groups, classes, choices and other repetitions are not read here. -/
def Symbol.ofChar (c : Char) : Option Symbol :=
  if c == '^' then some .start
  else if c == '$' then some .finish
  else if c == '*' then some .star
  else if c == '.' then some (.single .any)
  else if operators.contains c then none
  else some (.single (.letter c))

/-- The symbols of a notation; `escaped` when a backslash stands before it. -/
def symbols (escaped : Bool) : List Char → Option (List Symbol)
  | [] => if escaped then none else some []
  | c :: cs =>
    if escaped then
      if marks.contains c then (symbols false cs).map (.single (.letter c) :: ·) else none
    else if c == '\\' then symbols true cs
    else (Symbol.ofChar c).bind fun s => (symbols false cs).map (s :: ·)

/-- A star repeats what stands before it. -/
def items : List Symbol → Option Regex
  | [] => some []
  | .start :: ss => (items ss).map (.start :: ·)
  | .finish :: ss => (items ss).map (.finish :: ·)
  | .star :: _ => none
  | .single k :: .star :: ss => (items ss).map (.many k :: ·)
  | .single k :: ss => (items ss).map (.one k :: ·)

def parse (source : String) : Option Regex :=
  (symbols false source.toList).bind items

structure Flags where
  caseInsensitive : Bool
  dotMatchesNewLine : Bool
  deriving DecidableEq, Repr

def Class.takes (flags : Flags) : Class → Char → Bool
  | .any, x => flags.dotMatchesNewLine || x != '\n'
  | .letter c, x => if flags.caseInsensitive then Text.alike c x else c == x

/-- For every place of a text, its end included: the character that comes next. -/
def places (text : List Char) : List (Option Char) :=
  text.map some ++ [none]

/-- From "the rest matches from here" for every place of a text to the same with one item before the rest.
`first` says that nothing stands before the first place. -/
def step (flags : Flags) (first : Bool) (item : Item) (text : List Char) (rest : List Bool) : List Bool :=
  match item with
  | .start => (first && rest.headD false) :: rest.tail.map fun _ => false
  | .finish => List.zipWith (fun next b => next.isNone && b) (places text) rest
  | .one k => List.zipWith (fun next b => next.any (k.takes flags) && b) (places text) (rest.tail ++ [false])
  | .many k => (List.zip (places text) rest).foldr
      (fun place row => (place.2 || (place.1.any (k.takes flags) && row.headD false)) :: row) []

/-- For every place of a text, its end included: do the items match from there? -/
def row (flags : Flags) (first : Bool) (r : Regex) (text : List Char) : List Bool :=
  r.foldr (fun item rest => step flags first item text rest) ((places text).map fun _ => true)

/-- Some part of the text matches. -/
def isFoundIn (flags : Flags) (r : Regex) (text : List Char) : Bool :=
  (row flags true r text).contains true

end Regex
end CardBinder
