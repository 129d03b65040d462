import CardBinder.Text.Blank
import CardBinder.Text.Cut
import CardBinder.Text.Lowercase

/-! Card names: the key a name is filed under, articles at either end, and the pattern that guesses a misspelled name. -/

namespace CardBinder

/-- The key of a name: trimmed and in lower case. -/
def canonicalName (name : String) : String :=
  Text.lower (Text.trim name)

/-- Card text without the braces that mark clauses. -/
def searchText (text : String) : String :=
  String.ofList (text.toList.filter fun c => c != '\x7b' && c != '\x7d')

def isArticle (cs : List Char) : Bool :=
  ["the", "an", "a"].contains (String.ofList (cs.map Char.toLower))

/-- "Abbot, The" becomes "The Abbot"; a name of several lines, or without a last article, stays. -/
def articleToFront (name : String) : String :=
  match Text.cutLastChars [',', ' '] name.toList with
  | some (body, article) =>
    if isArticle article && !name.toList.contains '\n' then
      String.ofList (article ++ ' ' :: body)
    else name
  | none => name

/-- "The Abbot" becomes "Abbot, The"; a name of several lines, or without a first article, stays. -/
def articleToBack (name : String) : String :=
  match Text.cutFirstChars [' '] name.toList with
  | some (article, body) =>
    if isArticle article && !name.toList.contains '\n' then
      String.ofList (body ++ ',' :: ' ' :: article)
    else name
  | none => name

def isAsciiPunctuation (c : Char) : Bool :=
  let n := c.toNat
  (33 ≤ n && n ≤ 47) || (58 ≤ n && n ≤ 64) || (91 ≤ n && n ≤ 96) || (123 ≤ n && n ≤ 126)

def isVowel (c : Char) : Bool :=
  ['a', 'e', 'i', 'o', 'u'].contains c

/-- Vowels and punctuation stand for any one character. -/
def blurChar (c : Char) : Char :=
  if isAsciiPunctuation c || isVowel c then '_' else c

/-- The pattern that finds a card under a rough spelling: "the" is dropped and a break between words is any run. -/
def guessPattern (name : String) : String :=
  let spaced := ' ' :: Text.lowerChars name.toList ++ [' ']
  let bare := Text.replaceChars " the ".toList [' '] spaced
  let parts := Text.words ((bare.map fun c => if c == ',' then ' ' else c).map blurChar)
  "%" ++ Text.join "%" (parts.map String.ofList) ++ "%"

end CardBinder
