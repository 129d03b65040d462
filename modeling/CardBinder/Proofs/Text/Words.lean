import CardBinder.Text.Blank
import CardBinder.Text.Cut
import Mathlib.Data.List.Infix

/-! The words of a text, and the parts of a text that are replaced by others. -/

namespace CardBinder.Text
variable {b y : Char} {first last old : List Char}

/-! Words -/

@[simp] theorem words_nil : words [] = [] := rfl

theorem wordsFrom_append_blank (hb : isBlank b) (word : List Char) :
    wordsFrom word (first ++ b :: last) = wordsFrom word first ++ words last := by
  induction first generalizing word with
  | nil =>
    have hstart : wordsFrom word (b :: last) =
        if word.isEmpty then words last else word.reverse :: words last := if_pos hb
    rw [List.nil_append, hstart, wordsFrom]
    split <;> rfl
  | cons c first ih =>
    rw [List.cons_append, wordsFrom, wordsFrom]
    split
    · split
      · exact ih []
      · exact congrArg (word.reverse :: ·) (ih [])
    · exact ih (c :: word)

theorem words_append_blank (hb : isBlank b) :
    words (first ++ b :: last) = words first ++ words last :=
  wordsFrom_append_blank hb []

theorem flatten_wordsFrom (word cs : List Char) :
    (wordsFrom word cs).flatten = word.reverse ++ cs.filter (!isBlank ·) := by
  induction cs generalizing word with
  | nil =>
    rw [wordsFrom]
    split
    · rename_i hnil
      rw [List.isEmpty_iff.mp hnil]
      rfl
    · simp
  | cons c cs ih =>
    rw [wordsFrom]
    split
    · rename_i hc
      rw [List.filter_cons_of_neg (by simp [hc])]
      split
      · rename_i hnil
        rw [ih, List.isEmpty_iff.mp hnil]
      · rw [List.flatten_cons, ih]
        rfl
    · rename_i hc
      rw [List.filter_cons_of_pos (by simp [hc]), ih, List.reverse_cons, List.append_assoc]
      rfl

theorem flatten_words (cs : List Char) : (words cs).flatten = cs.filter (!isBlank ·) :=
  flatten_wordsFrom [] cs

/-! Replacing parts -/

theorem replaceFrom_eq (old new : List Char) (skip : Nat) (cs : List Char) :
    replaceFrom old new skip cs = replaceChars old new (cs.drop skip) := by
  induction cs generalizing skip with
  | nil => cases skip <;> rfl
  | cons c cs ih =>
    cases skip with
    | zero => rfl
    | succ skip => exact ih skip

theorem replaceChars_found (hne : old ≠ []) (new cs : List Char) :
    replaceChars old new (old ++ cs) = new ++ replaceChars old new cs := by
  obtain ⟨c, rest, rfl⟩ := List.exists_cons_of_ne_nil hne
  have hbegins : (c :: rest).isPrefixOf (c :: (rest ++ cs)) := by
    simp [List.isPrefixOf_iff_prefix]
  rw [List.cons_append, replaceChars, replaceFrom, if_pos hbegins, replaceFrom_eq]
  simp

theorem replaceChars_kept {c : Char} (h : ¬ old <+: c :: cs) (new : List Char) :
    replaceChars old new (c :: cs) = c :: replaceChars old new cs := by
  rw [replaceChars, replaceFrom, if_neg (by rwa [List.isPrefixOf_iff_prefix])]
  rfl

/-- Reading a text as it is replaced: a part to be replaced at a time, and else a character. -/
theorem replaced_induction {P : List Char → Prop} (hne : old ≠ []) (nil : P [])
    (found : ∀ cs, P cs → P (old ++ cs)) (kept : ∀ c cs, ¬ old <+: c :: cs → P cs → P (c :: cs))
    (cs : List Char) : P cs := by
  induction hlength : cs.length using Nat.strong_induction_on generalizing cs with
  | _ n ih =>
    have hold : 0 < old.length := List.length_pos_iff.mpr hne
    subst hlength
    by_cases hbegins : old <+: cs
    · obtain ⟨rest, rfl⟩ := hbegins
      exact found rest (ih _ (by simp [hold]) rest rfl)
    · cases cs with
      | nil => exact nil
      | cons c cs => exact kept c cs hbegins (ih _ (by simp) cs rfl)

/-- What is not in the part that is replaced is still there. -/
theorem count_le_replaceChars (hne : old ≠ []) (hy : y ∉ old) (new cs : List Char) :
    cs.count y ≤ (replaceChars old new cs).count y := by
  induction cs using replaced_induction hne with
  | nil => exact Nat.zero_le _
  | found cs ih =>
    rw [replaceChars_found hne, List.count_append, List.count_append, List.count_eq_zero.mpr hy]
    omega
  | kept c cs hkept ih =>
    rw [replaceChars_kept hkept, List.count_cons, List.count_cons]
    omega

end CardBinder.Text
