/-! Cutting text at a separator and putting pieces together. -/

namespace CardBinder.Text

/-- What stands before and after the first occurrence of `sep`. -/
def cutFirstChars (sep : List Char) : List Char → Option (List Char × List Char)
  | [] => if sep.isEmpty then some ([], []) else none
  | c :: cs =>
    if sep.isPrefixOf (c :: cs) then some ([], (c :: cs).drop sep.length)
    else (cutFirstChars sep cs).map fun (before, after) => (c :: before, after)

/-- What stands before and after the last occurrence of `sep`. -/
def cutLastChars (sep cs : List Char) : Option (List Char × List Char) :=
  (cutFirstChars sep.reverse cs.reverse).map fun (after, before) => (before.reverse, after.reverse)

def cutFirst (sep s : String) : Option (String × String) :=
  (cutFirstChars sep.toList s.toList).map fun (a, b) => (String.ofList a, String.ofList b)

def cutLast (sep s : String) : Option (String × String) :=
  (cutLastChars sep.toList s.toList).map fun (a, b) => (String.ofList a, String.ofList b)

/-- All pieces between the occurrences of one character, empty pieces included. -/
def splitChars (sep : Char) : List Char → List (List Char)
  | [] => [[]]
  | c :: cs =>
    if c == sep then [] :: splitChars sep cs
    else match splitChars sep cs with
      | [] => [[c]]
      | piece :: rest => (c :: piece) :: rest

def split (sep : Char) (s : String) : List String :=
  (splitChars sep s.toList).map String.ofList

/-- Replaces the occurrences of `old` from left to right; `skip` characters belong to the last one. -/
def replaceFrom (old new : List Char) : Nat → List Char → List Char
  | _, [] => []
  | skip + 1, _ :: cs => replaceFrom old new skip cs
  | 0, c :: cs =>
    if old.isPrefixOf (c :: cs) then new ++ replaceFrom old new (old.length - 1) cs
    else c :: replaceFrom old new 0 cs

def replaceChars (old new cs : List Char) : List Char :=
  replaceFrom old new 0 cs

def join (sep : String) (parts : List String) : String :=
  sep.intercalate parts

/-- Equality up to the case of ASCII letters. -/
def sameAscii (a b : String) : Bool :=
  a.toList.map Char.toLower == b.toList.map Char.toLower

end CardBinder.Text
