/-! Ranges of code points, the form in which the character tables are written. -/

namespace CardBinder.Text

structure CodeRange where
  first : Nat
  last : Nat

def CodeRange.holds (r : CodeRange) (n : Nat) : Bool :=
  r.first ≤ n && n ≤ r.last

def inRanges (rs : List CodeRange) (c : Char) : Bool :=
  rs.any (·.holds c.toNat)

/-- Every `stride`-th character from `first` to `last`, each sent as far as `first` is sent to `target`. -/
structure CaseRun where
  first : Nat
  last : Nat
  stride : Nat
  target : Nat

def CaseRun.holds (r : CaseRun) (n : Nat) : Bool :=
  r.first ≤ n && n ≤ r.last && (n - r.first) % r.stride == 0

/-- The character of a run that is sent to `c`. -/
def CaseRun.source? (r : CaseRun) (c : Char) : Option Char :=
  let n := c.toNat + r.first - r.target
  if r.target ≤ c.toNat && r.holds n then some (Char.ofNat n) else none

/-- The image of a character under a table; characters outside the table stay. -/
def applyRuns (rs : List CaseRun) (c : Char) : Char :=
  match rs.find? (·.holds c.toNat) with
  | some r => Char.ofNat (r.target + (c.toNat - r.first))
  | none => c

end CardBinder.Text
