import CardBinder.Text.FoldTable

/-! Equality of characters up to case. -/

namespace CardBinder.Text

def foldChar (c : Char) : Char :=
  if c.toNat < 0x80 then c.toLower else applyRuns foldRuns c

/-- Two characters are alike when simple case folding sends them to the same one. -/
def alike (a b : Char) : Bool :=
  foldChar a == foldChar b

/-- The characters alike to one, itself among them, in the order of their code points. -/
def variants (c : Char) : List Char :=
  let folded := foldChar c
  ((folded :: foldRuns.filterMap (·.source? folded)).eraseDups.filter (alike c)).mergeSort
    fun a b => a.toNat ≤ b.toNat

end CardBinder.Text
