/-! Whole numbers as people type them, within the limits of the fields that hold them. -/

namespace CardBinder.Text

/-- The largest count a card set entry or a count filter can hold. -/
def maxCount : Nat := 4294967295

def digitValue? (c : Char) : Option Nat :=
  if c.isDigit then some (c.toNat - '0'.toNat) else none

def digitsValue (acc : Nat) : List Char → Option Nat
  | [] => some acc
  | c :: cs => (digitValue? c).bind fun d => digitsValue (10 * acc + d) cs

/-- One or more ASCII digits. -/
def natOfDigits? (cs : List Char) : Option Nat :=
  if cs.isEmpty then none else digitsValue 0 cs

def countOfChars? (cs : List Char) : Option Nat :=
  (natOfDigits? cs).bind fun n => if n ≤ maxCount then some n else none

/-- A count: digits with an optional plus sign, at most `maxCount`. -/
def count? (s : String) : Option Nat :=
  match s.toList with
  | '+' :: cs => countOfChars? cs
  | cs => countOfChars? cs

/-- The range of the numeric card columns. -/
def isCardNumber (n : Int) : Bool :=
  -2147483648 ≤ n && n ≤ 2147483647

/-- A card number: digits with an optional sign, in the range of the numeric columns. -/
def cardNumber? (s : String) : Option Int :=
  let value : Option Int := match s.toList with
    | '+' :: cs => (natOfDigits? cs).map Int.ofNat
    | '-' :: cs => (natOfDigits? cs).map fun n => -(n : Int)
    | cs => (natOfDigits? cs).map Int.ofNat
  value.bind fun n => if isCardNumber n then some n else none

end CardBinder.Text
