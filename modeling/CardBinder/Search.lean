/-! Finding a row by its number in a table kept in ascending order. -/

namespace CardBinder
variable {α : Type}

/-- Halves the window of `size` rows from `base` until one row is left. -/
def halve (rows : List α) (key : α → Nat) (wanted : Nat) : Nat → Nat → Nat → Nat
  | 0, base, _ => base
  | fuel + 1, base, size =>
    if size ≤ 1 then base
    else
      let half := size / 2
      let middle := base + half
      let tooFar := match rows[middle]? with
        | some row => decide (wanted < key row)
        | none => true
      halve rows key wanted fuel (if tooFar then base else middle) (size - half)

/-- The place of the row with the wanted number; found whenever the numbers ascend. -/
def place? (rows : List α) (key : α → Nat) (wanted : Nat) : Option Nat :=
  let base := halve rows key wanted rows.length 0 rows.length
  match rows[base]? with
  | some row => if key row = wanted then some base else none
  | none => none

def rowAt? (rows : List α) (key : α → Nat) (wanted : Nat) : Option α :=
  (place? rows key wanted).bind (rows[·]?)

end CardBinder
