import CardBinder.Text.Ahead

/-! The number of terminal columns a text takes. -/

namespace CardBinder.Text

/-- The columns of a text and what it shows to a character before it, read from its end. -/
def measure (cs : List Char) : Int × Ahead :=
  cs.foldr (fun c (sum, ahead) => let (w, before) := Ahead.step c ahead; (sum + w, before)) (0, {})

def width (s : String) : Nat :=
  (measure s.toList).1.toNat

/-- Fills up with spaces on the right. -/
def padRight (s : String) (n : Nat) : String :=
  s ++ String.ofList (List.replicate (n - width s) ' ')

/-- Fills up with spaces on the left. -/
def padLeft (s : String) (n : Nat) : String :=
  String.ofList (List.replicate (n - width s) ' ') ++ s

end CardBinder.Text
