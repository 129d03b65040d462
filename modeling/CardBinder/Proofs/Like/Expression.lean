import CardBinder.Like.Size

/-! The expression of a pattern reads back as one item for each character, between the ends of the text. -/

namespace CardBinder

namespace Regex

theorem operators_subset_marks : operators ⊆ marks := by decide

/-- Behind a backslash a mark stands for itself. -/
theorem symbols_backslash {c : Char} (hc : c ∈ marks) (cs : List Char) :
    symbols false ('\\' :: c :: cs) = (symbols false cs).map (.single (.letter c) :: ·) := by
  simp [symbols, hc]

/-- What is not a mark stands for itself. -/
theorem symbols_letter {c : Char} (hc : c ∉ marks) (cs : List Char) :
    symbols false (c :: cs) = (symbols false cs).map (.single (.letter c) :: ·) := by
  have hother : ∀ m ∈ marks, c ≠ m := fun m hm heq => hc (heq ▸ hm)
  have hoperator : c ∉ operators := fun h => hc (operators_subset_marks h)
  have hsymbol : Symbol.ofChar c = some (.single (.letter c)) := by
    simp [Symbol.ofChar, hoperator, hother '^' (by decide), hother '$' (by decide),
      hother '*' (by decide), hother '.' (by decide)]
  simp [symbols, hsymbol, hother '\\' (by decide)]

/-- What no star follows stands for one character. -/
theorem items_single {ss : List Symbol} (h : ss.head? ≠ some .star) (k : Class) :
    items (.single k :: ss) = (items ss).map (.one k :: ·) := by
  rw [items]
  rintro rest rfl
  exact h rfl

end Regex

namespace Like

open Regex

/-- What a character of a pattern becomes. -/
def itemOf (c : Char) : Item :=
  if c == '%' then .many .any else if c == '_' then .one .any else .one (.letter c)

def symbolsOf (c : Char) : List Symbol :=
  if c == '%' then [.single .any, .star] else if c == '_' then [.single .any] else [.single (.letter c)]

theorem symbols_expressionOf (c : Char) (cs : List Char) :
    symbols false (expressionOf c ++ cs) = (symbols false cs).map (symbolsOf c ++ ·) := by
  rw [expressionOf, symbolsOf]
  split
  · simp [symbols, Symbol.ofChar]; rfl
  · split
    · simp [symbols, Symbol.ofChar]
    · rw [escape]
      split
      · rename_i hmark
        exact symbols_backslash (List.contains_iff_mem.mp hmark) cs
      · rename_i hmark
        exact symbols_letter (fun h => hmark (List.contains_iff_mem.mpr h)) cs

theorem symbols_flatMap (pattern : List Char) :
    symbols false (pattern.flatMap expressionOf ++ ['$']) =
      some (pattern.flatMap symbolsOf ++ [.finish]) := by
  induction pattern with
  | nil => rfl
  | cons c pattern ih =>
    rw [List.flatMap_cons, List.append_assoc, symbols_expressionOf, ih]
    simp

theorem head?_flatMap_symbolsOf (pattern : List Char) :
    (pattern.flatMap symbolsOf ++ [Symbol.finish]).head? ≠ some .star := by
  cases pattern with
  | nil => decide
  | cons c pattern =>
    rw [List.flatMap_cons, symbolsOf]
    split
    · simp
    · split <;> simp

theorem items_flatMap (pattern : List Char) :
    items (pattern.flatMap symbolsOf ++ [.finish]) = some (pattern.map itemOf ++ [.finish]) := by
  induction pattern with
  | nil => rfl
  | cons c pattern ih =>
    rw [List.flatMap_cons, List.map_cons, symbolsOf, itemOf, List.append_assoc]
    have hhead := head?_flatMap_symbolsOf pattern
    split
    · simp [items, ih]
    · split
      · rw [List.singleton_append, items_single hhead, ih]
        rfl
      · rw [List.singleton_append, items_single hhead, ih]
        rfl

/-- No character of a pattern can change the meaning of another. -/
theorem regex?_eq (pattern : String) :
    regex? pattern = some (.start :: pattern.toList.map itemOf ++ [.finish]) := by
  have hstart : symbols false ('^' :: pattern.toList.flatMap expressionOf ++ ['$']) =
      (symbols false (pattern.toList.flatMap expressionOf ++ ['$'])).map (.start :: ·) := by
    simp [symbols, Symbol.ofChar]
  rw [regex?, parse, expression, String.toList_ofList, hstart, symbols_flatMap]
  simp [items, items_flatMap]

end Like
end CardBinder
