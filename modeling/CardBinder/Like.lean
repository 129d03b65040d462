import CardBinder.Regex

/-! Text patterns: a percent sign stands for any run of characters, an underscore for any one, and case does
not count. A pattern is written as a regular expression, and the expression is searched for. -/

namespace CardBinder.Like

/-- A character that stands for itself in an expression. -/
def escape (c : Char) : List Char :=
  if Regex.marks.contains c then ['\\', c] else [c]

def expressionOf (c : Char) : List Char :=
  if c == '%' then ['.', '*'] else if c == '_' then ['.'] else escape c

/-- The expression for a pattern, from one end of the text to the other. -/
def expression (pattern : String) : String :=
  String.ofList ('^' :: pattern.toList.flatMap expressionOf ++ ['$'])

def flags : Regex.Flags where
  caseInsensitive := true
  dotMatchesNewLine := true

def regex? (pattern : String) : Option Regex :=
  Regex.parse (expression pattern)

/-- The whole text matches the whole pattern. -/
def isMatch (pattern text : String) : Bool :=
  (regex? pattern).any (·.isFoundIn flags text.toList)

/-- The pattern that finds `needle` anywhere. -/
def anywhere (needle : String) : String :=
  "%" ++ needle ++ "%"

end CardBinder.Like
