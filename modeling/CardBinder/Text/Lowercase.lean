import CardBinder.Text.LowercaseTable

/-! Full lower-casing: one capital gives two characters, and the form of a sigma depends on its place in the word. -/

namespace CardBinder.Text

def lowerChar (c : Char) : Char :=
  if c.toNat < 0x80 then c.toLower else applyRuns lowercaseRuns c

/-- The first character that case does not ignore is a cased one. -/
def startsCased (cs : List Char) : Bool :=
  match cs.dropWhile (inRanges caseIgnorableRanges) with
  | [] => false
  | c :: _ => inRanges casedRanges c

/-- A sigma ends its word when a cased character stands before it and none after it. -/
def isFinalSigma (before after : List Char) : Bool :=
  startsCased before && !startsCased after

def lowerAt (before : List Char) (c : Char) (after : List Char) : List Char :=
  if c == 'Σ' then [if isFinalSigma before after then 'ς' else 'σ']
  else if c == 'İ' then ['i', '\u0307']
  else [lowerChar c]

/-- `before` holds the characters already read, the nearest first. -/
def lowerFrom (before : List Char) : List Char → List Char
  | [] => []
  | c :: cs => lowerAt before c cs ++ lowerFrom (c :: before) cs

def lowerChars (cs : List Char) : List Char :=
  lowerFrom [] cs

def lower (s : String) : String :=
  String.ofList (lowerChars s.toList)

end CardBinder.Text
