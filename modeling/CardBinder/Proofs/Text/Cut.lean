import CardBinder.Text.Cut
import Mathlib.Data.List.Infix

/-! Where text is cut: at the occurrence of a separator with no other one before it, or behind it, and
between the pieces that were joined. -/

namespace CardBinder.Text
variable {sep before after cs : List Char} {x : Char}

/-! The first occurrence -/

theorem cutFirstChars_prefix (hsep : sep ≠ []) (after : List Char) :
    cutFirstChars sep (sep ++ after) = some ([], after) := by
  obtain ⟨c, rest, rfl⟩ := List.exists_cons_of_ne_nil hsep
  have hprefix : (c :: rest).isPrefixOf (c :: rest ++ after) :=
    List.isPrefixOf_iff_prefix.mpr (List.prefix_append _ _)
  rw [List.cons_append] at hprefix ⊢
  rw [cutFirstChars, if_pos hprefix, ← List.cons_append, List.drop_left]

/-- Text is cut where the separator is found for the first time. -/
theorem cutFirstChars_append (hsep : sep ≠ []) (hfirst : ¬ sep <:+: (before ++ sep).dropLast)
    (after : List Char) : cutFirstChars sep (before ++ sep ++ after) = some (before, after) := by
  induction before with
  | nil => exact cutFirstChars_prefix hsep after
  | cons c before ih =>
    have hne : before ++ sep ≠ [] := by simp [hsep]
    rw [List.cons_append, List.dropLast_cons_of_ne_nil hne] at hfirst
    have hhere : ¬ sep <+: c :: (before ++ sep ++ after) := by
      intro hprefix
      have hall : c :: (before ++ sep).dropLast <+: c :: (before ++ sep ++ after) :=
        List.cons_prefix_cons.mpr
          ⟨rfl, (List.dropLast_prefix _).trans (List.prefix_append _ _)⟩
      refine hfirst (List.prefix_of_prefix_length_le hprefix hall ?_).isInfix
      simp
      omega
    have hlater : ¬ sep <:+: (before ++ sep).dropLast := fun h =>
      hfirst (h.trans (List.suffix_cons c _).isInfix)
    rw [List.cons_append, List.cons_append, cutFirstChars,
      if_neg (mt List.isPrefixOf_iff_prefix.mp hhere), ih hlater]
    rfl

/-- Text is cut no later than at any occurrence of the separator. -/
theorem exists_cutFirstChars (hsep : sep ≠ []) (before after : List Char) :
    ∃ first rest, cutFirstChars sep (before ++ sep ++ after) = some (first, rest) ∧
      first.length ≤ before.length := by
  induction before with
  | nil => exact ⟨[], after, cutFirstChars_prefix hsep after, Nat.le_refl 0⟩
  | cons c before ih =>
    obtain ⟨first, rest, hcut, hle⟩ := ih
    rw [List.cons_append, List.cons_append, cutFirstChars]
    split
    · exact ⟨[], _, rfl, Nat.zero_le _⟩
    · exact ⟨c :: first, rest, by rw [hcut]; rfl, Nat.succ_le_succ hle⟩

/-- A separator is found first behind text without its first character. -/
theorem not_infix_of_notMem (h : x ∉ before) :
    ¬ (x :: sep) <:+: (before ++ x :: sep).dropLast := by
  induction before with
  | nil =>
    intro hin
    have := hin.length_le
    simp only [List.nil_append, List.length_dropLast, List.length_cons] at this
    omega
  | cons c before ih =>
    obtain ⟨hne, hnot⟩ := not_or.mp (mt List.mem_cons.mpr h)
    rw [List.cons_append, List.dropLast_cons_of_ne_nil (by simp), List.infix_cons_iff,
      List.cons_prefix_cons]
    rintro (⟨rfl, _⟩ | hin)
    · exact hne rfl
    · exact ih hnot hin

theorem cutFirst_append {sep before after : String} (hsep : sep.toList = x :: cs)
    (h : x ∉ before.toList) : cutFirst sep (before ++ sep ++ after) = some (before, after) := by
  rw [cutFirst, String.toList_append, String.toList_append,
    cutFirstChars_append (by simp [hsep]) (hsep ▸ not_infix_of_notMem h) after.toList]
  simp

theorem eq_append_of_cutFirstChars (h : cutFirstChars sep cs = some (before, after)) :
    cs = before ++ sep ++ after := by
  induction cs generalizing before with
  | nil =>
    rw [cutFirstChars] at h
    split at h
    · rename_i hsep
      cases h
      rw [List.isEmpty_iff.mp hsep]
      rfl
    · cases h
  | cons c cs ih =>
    rw [cutFirstChars] at h
    split at h
    · rename_i hprefix
      obtain ⟨rest, hrest⟩ := List.isPrefixOf_iff_prefix.mp hprefix
      cases h
      rw [← hrest, List.drop_left]
      rfl
    · obtain ⟨⟨first, rest⟩, hcut, heq⟩ := Option.map_eq_some_iff.mp h
      cases heq
      rw [ih hcut]
      rfl

theorem cutFirst_of_notMem {sep s : String} (hsep : sep.toList = x :: cs) (h : x ∉ s.toList) :
    cutFirst sep s = none := by
  rw [cutFirst, Option.map_eq_none_iff]
  cases hcut : cutFirstChars sep.toList s.toList with
  | none => rfl
  | some pair =>
    rw [eq_append_of_cutFirstChars hcut, hsep] at h
    simp at h

/-! The last occurrence -/

/-- Text is cut where the separator is found for the last time. -/
theorem cutLastChars_append (hsep : sep ≠ []) (hlast : ¬ sep <:+: (sep ++ after).tail)
    (before : List Char) : cutLastChars sep (before ++ sep ++ after) = some (before, after) := by
  have hfirst : ¬ sep.reverse <:+: (after.reverse ++ sep.reverse).dropLast := by
    rwa [← List.reverse_append, List.dropLast_reverse, List.reverse_infix]
  have hcut := cutFirstChars_append (by simpa using hsep) hfirst before.reverse
  rw [cutLastChars, List.reverse_append, List.reverse_append, ← List.append_assoc, hcut]
  simp

theorem cutLast_append {sep before after : String} (hsep : sep.toList ≠ [])
    (h : ¬ sep.toList <:+: (sep ++ after).toList.tail) :
    cutLast sep (before ++ sep ++ after) = some (before, after) := by
  rw [String.toList_append] at h
  rw [cutLast, String.toList_append, String.toList_append, cutLastChars_append hsep h]
  simp

theorem eq_append_of_cutLastChars (h : cutLastChars sep cs = some (before, after)) :
    cs = before ++ sep ++ after := by
  obtain ⟨⟨last, first⟩, hcut, heq⟩ := Option.map_eq_some_iff.mp h
  obtain ⟨rfl, rfl⟩ := Prod.mk.inj heq
  simpa using congrArg List.reverse (eq_append_of_cutFirstChars hcut)

/-- Where the separator is found again later on, less is left behind the cut. -/
theorem exists_cutLast {sep after : String} (before : String) (hsep : sep.toList ≠ [])
    (h : sep.toList <:+: (sep ++ after).toList.tail) :
    ∃ first last, cutLast sep (before ++ sep ++ after) = some (first, last) ∧
      last.toList.length < after.toList.length := by
  obtain ⟨u, w, huw⟩ := h
  obtain ⟨c, rest, hc⟩ := List.exists_cons_of_ne_nil hsep
  have htail : rest ++ after.toList = u ++ sep.toList ++ w := by
    rw [huw, String.toList_append, hc]
    rfl
  have hlength : w.length < after.toList.length := by
    have := congrArg List.length htail
    simp only [List.length_append, hc, List.length_cons] at this
    omega
  have htext : (before ++ sep ++ after).toList.reverse =
      w.reverse ++ sep.toList.reverse ++ (u.reverse ++ c :: before.toList.reverse) := by
    simp only [String.toList_append, hc, List.append_assoc, List.cons_append, htail]
    simp
  have hreverse : sep.toList.reverse ≠ [] := by simpa using hsep
  obtain ⟨last, first, hcut, hle⟩ :=
    exists_cutFirstChars hreverse w.reverse (u.reverse ++ c :: before.toList.reverse)
  refine ⟨String.ofList first.reverse, String.ofList last.reverse, ?_, ?_⟩
  · rw [cutLast, cutLastChars, htext, hcut]
    rfl
  · simp only [String.toList_ofList, List.length_reverse] at hle ⊢
    omega

/-! Pieces -/

theorem splitChars_eq_splitOn (sep : Char) (cs : List Char) : splitChars sep cs = cs.splitOn sep := by
  induction cs with
  | nil => rfl
  | cons c cs ih =>
    rw [splitChars, ih, List.splitOn, List.splitOn, List.splitOnP_cons_eq_if_modifyHead]
    split
    · rfl
    · cases h : cs.splitOnP (· == sep) with
      | nil => exact absurd h (List.splitOnP_ne_nil _ _)
      | cons piece rest => rfl

/-- Pieces without the separator are found again. -/
theorem split_join {sep : String} {parts : List String} (hsep : sep.toList = [x])
    (hne : parts ≠ []) (h : ∀ p ∈ parts, x ∉ p.toList) : split x (join sep parts) = parts := by
  rw [split, join, String.toList_intercalate, hsep, splitChars_eq_splitOn,
    List.splitOn_intercalate x (by simpa using h) (by simpa using hne), List.map_map]
  simp

end CardBinder.Text
