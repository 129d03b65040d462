import CardBinder.Proofs.Like.Pieces
import CardBinder.Proofs.Text.Lowercase

/-! Lower-case patterns: a text in lower case matches the text it was made from when case folding keeps
all of its characters alike, and only then. -/

namespace CardBinder.Like
open Text
variable {pattern text piece cs : List Char} {c x y z : Char}

theorem Takes.of_alike (h : alike z x) : Takes z [x] := by
  by_cases hrun : z = '%'
  · exact hrun ▸ .anyRun [x]
  · by_cases hone : z = '_'
    · exact hone ▸ .anyOne x
    · exact .letter hrun hone (eq_of_beq h)

theorem splits_of_alike (h : List.Forall₂ (fun z x => alike z x) pattern text) :
    Splits pattern text := by
  induction h with
  | nil => exact splits_nil.mpr rfl
  | cons halike _ ih => exact splits_cons.mpr ⟨[_], _, .of_alike halike, ih, rfl⟩

/-- A character of a pattern that is no wildcard stands for one that is alike to it. -/
theorem Takes.countP_le {k : Char} (hrun : foldChar '%' ≠ k) (hone : foldChar '_' ≠ k)
    (h : Takes c piece) : [c].countP (foldChar · = k) ≤ piece.countP (foldChar · = k) := by
  cases h with
  | anyRun => simp [hrun]
  | anyOne => simp [hone]
  | letter _ _ hfold => simp [hfold]

theorem Splits.countP_le {k : Char} (hrun : foldChar '%' ≠ k) (hone : foldChar '_' ≠ k)
    (h : Splits pattern text) :
    pattern.countP (foldChar · = k) ≤ text.countP (foldChar · = k) := by
  induction pattern generalizing text with
  | nil => exact Nat.zero_le _
  | cons c pattern ih =>
    obtain ⟨piece, rest, htakes, hrest, rfl⟩ := splits_cons.mp h
    rw [← List.singleton_append, List.countP_append, List.countP_append]
    exact Nat.add_le_add (htakes.countP_le hrun hone) (ih hrest)

theorem Splits.count_le (hy : Lone y) (h : Splits pattern text) :
    pattern.count y ≤ text.count y := by
  rw [← hy.countP_eq, ← hy.countP_eq]
  exact h.countP_le (hy.foldChar_ne (by decide)) (hy.foldChar_ne (by decide))

theorem splits_lowerChars_iff : Splits (lowerChars cs) cs ↔ ∀ c ∈ cs, LowersAlike c :=
  ⟨fun h => lowersAlike_of_count_le fun _ hy => h.count_le hy,
    fun h => splits_of_alike (alike_lowerChars h)⟩

theorem isMatch_lower_iff {s : String} : isMatch (lower s) s ↔ ∀ c ∈ s.toList, LowersAlike c := by
  rw [isMatch_iff_splits, lower, String.toList_ofList, splits_lowerChars_iff]

/-- Parts of a text hold no more of a character than the text does. -/
theorem isMatch_anywhere_lower_iff {s : String} :
    isMatch (anywhere (lower s)) s ↔ ∀ c ∈ s.toList, LowersAlike c := by
  rw [isMatch_anywhere_iff]
  constructor
  · rintro ⟨part, hpart, hmatch⟩
    have hsplits := isMatch_iff_splits.mp hmatch
    rw [lower, String.toList_ofList] at hsplits
    exact lowersAlike_of_count_le fun y hy => (hsplits.count_le hy).trans (hpart.sublist.count_le y)
  · intro h
    exact ⟨s, List.infix_rfl, isMatch_lower_iff.mpr h⟩

end CardBinder.Like
