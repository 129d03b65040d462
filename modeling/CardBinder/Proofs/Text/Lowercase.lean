import CardBinder.Proofs.Text.Fold
import Mathlib.Data.List.Forall2

/-! Lower-casing of texts: what it keeps alike, what it brings in, and that blanks around a text are no
matter to it. -/

namespace CardBinder.Text
variable {c y : Char} {cs before after blanks : List Char}

/-! Character by character -/

theorem lowerAt_of_lowersAlike (h : LowersAlike c) :
    ∃ y, lowerAt before c after = [y] ∧ alike y c := by
  rw [lowerAt]
  split
  · rename_i hsigma
    obtain rfl := eq_of_beq hsigma
    refine ⟨_, rfl, ?_⟩
    split <;> decide +kernel
  · rw [if_neg (by simpa using h.1)]
    exact ⟨_, rfl, h.2⟩

/-- The lower-case form of a text stands over the text, character by character. -/
theorem alike_lowerFrom (h : ∀ c ∈ cs, LowersAlike c) :
    List.Forall₂ (fun y c => alike y c) (lowerFrom before cs) cs := by
  induction cs generalizing before with
  | nil => exact .nil
  | cons c cs ih =>
    obtain ⟨hc, hcs⟩ := List.forall_mem_cons.mp h
    obtain ⟨y, hlower, halike⟩ := lowerAt_of_lowersAlike hc
    rw [lowerFrom, hlower]
    exact .cons halike (ih hcs)

theorem alike_lowerChars (h : ∀ c ∈ cs, LowersAlike c) :
    List.Forall₂ (fun y c => alike y c) (lowerChars cs) cs :=
  alike_lowerFrom h

/-! Characters that are kept -/

theorem count_le_lowerAt (hy : Kept y) (before : List Char) (c : Char) (after : List Char) :
    [c].count y ≤ (lowerAt before c after).count y := by
  by_cases hc : c = y
  · subst hc
    rw [hy]
  · rw [List.count_cons_of_ne hc]
    exact Nat.zero_le _

theorem count_le_lowerFrom (hy : Kept y) (before cs : List Char) :
    cs.count y ≤ (lowerFrom before cs).count y := by
  induction cs generalizing before with
  | nil => exact Nat.le_refl 0
  | cons c cs ih =>
    have hhere := count_le_lowerAt hy before c cs
    have hrest := ih (c :: before)
    rw [lowerFrom, List.count_append, ← List.singleton_append, List.count_append]
    omega

theorem mem_lowerChars (hy : Kept y) (h : y ∈ cs) : y ∈ lowerChars cs :=
  List.count_pos_iff.mp ((List.count_pos_iff.mpr h).trans_le (count_le_lowerFrom hy [] cs))

/-- Where a character that is kept is brought in, there are more of it than before. -/
theorem count_lt_lowerChars (hy : Kept y) (hc : c ∈ cs) (hne : y ≠ c)
    (hbrought : ∀ before after, y ∈ lowerAt before c after) :
    cs.count y < (lowerChars cs).count y := by
  rw [lowerChars]
  generalize [] = before
  induction cs generalizing before with
  | nil => cases hc
  | cons x cs ih =>
    rw [lowerFrom, List.count_append, ← List.singleton_append, List.count_append]
    rcases List.mem_cons.mp hc with rfl | hc
    · have hhere := List.count_pos_iff.mpr (hbrought before cs)
      have hrest := count_le_lowerFrom hy (c :: before) cs
      have hnone : [c].count y = 0 := List.count_eq_zero.mpr (by simpa using hne)
      omega
    · have hhere := count_le_lowerAt hy before x cs
      have hrest := ih hc (x :: before)
      omega

/-- A text is alike to its lower-case form when no lone character is brought into that form. -/
theorem lowersAlike_of_count_le (h : ∀ y, Lone y → (lowerChars cs).count y ≤ cs.count y) :
    ∀ c ∈ cs, LowersAlike c := by
  intro c hc
  by_contra hnot
  obtain ⟨y, hy, hne, hbrought⟩ := exists_lone hnot
  exact absurd (h y hy) (Nat.not_le.mpr (count_lt_lowerChars hy.kept hc hne hbrought))

/-! Blanks around a text -/

/-- The code points of the blank characters. -/
def blankCodes : List Nat :=
  [0x09, 0x0A, 0x0B, 0x0C, 0x0D, 0x20, 0x85, 0xA0, 0x1680, 0x2000, 0x2001, 0x2002, 0x2003, 0x2004,
   0x2005, 0x2006, 0x2007, 0x2008, 0x2009, 0x200A, 0x2028, 0x2029, 0x202F, 0x205F, 0x3000]

theorem exists_code_of_isBlank (h : isBlank c) : ∃ n ∈ blankCodes, c = Char.ofNat n := by
  refine ⟨c.toNat, ?_, (Char.ofNat_toNat c).symm⟩
  simp only [isBlank, Bool.or_eq_true, Bool.and_eq_true, decide_eq_true_eq, beq_iff_eq] at h
  simp only [blankCodes, List.mem_cons, List.not_mem_nil, or_false]
  omega

/-- Neither cased nor passed over when the form of a sigma is decided. -/
theorem case_of_isBlank (h : isBlank c) :
    inRanges caseIgnorableRanges c = false ∧ inRanges casedRanges c = false := by
  have hall : ∀ n ∈ blankCodes, inRanges caseIgnorableRanges (Char.ofNat n) = false ∧
      inRanges casedRanges (Char.ofNat n) = false := by
    decide +kernel
  obtain ⟨n, hn, rfl⟩ := exists_code_of_isBlank h
  exact hall n hn

theorem kept_of_isBlank (h : isBlank c) : Kept c := by
  have hall : ∀ n ∈ blankCodes, lowerChar (Char.ofNat n) = Char.ofNat n ∧
      Char.ofNat n ≠ 'Σ' ∧ Char.ofNat n ≠ 'İ' := by
    decide +kernel
  obtain ⟨n, hn, rfl⟩ := exists_code_of_isBlank h
  obtain ⟨hkept, hsigma, hdotted⟩ := hall n hn
  intro before after
  simp [lowerAt, hsigma, hdotted, hkept]

theorem startsCased_blanks (h : ∀ c ∈ blanks, isBlank c) : startsCased blanks = false := by
  cases blanks with
  | nil => rfl
  | cons c blanks =>
    obtain ⟨hignorable, hcased⟩ := case_of_isBlank (h c List.mem_cons_self)
    rw [startsCased, List.dropWhile_cons_of_neg (by simp [hignorable])]
    exact hcased

theorem startsCased_append_blanks (h : ∀ c ∈ blanks, isBlank c) (cs : List Char) :
    startsCased (cs ++ blanks) = startsCased cs := by
  rw [startsCased, startsCased, List.dropWhile_append]
  cases hcs : cs.dropWhile (inRanges caseIgnorableRanges) with
  | nil => exact startsCased_blanks h
  | cons c rest => rfl

/-- Blanks far before and far behind a text do not change its lower-case form. -/
theorem lowerFrom_blanks {left right : List Char} (hleft : ∀ c ∈ left, isBlank c)
    (hright : ∀ c ∈ right, isBlank c) (before cs : List Char) :
    lowerFrom (before ++ left) (cs ++ right) = lowerFrom before cs ++ right := by
  induction cs generalizing before with
  | nil =>
    rw [List.nil_append, lowerFrom, List.nil_append]
    generalize before ++ left = seen
    induction right generalizing seen with
    | nil => rfl
    | cons c right ih =>
      obtain ⟨hc, hright⟩ := List.forall_mem_cons.mp hright
      rw [lowerFrom, kept_of_isBlank hc, ih hright]
      rfl
  | cons c cs ih =>
    have hat : lowerAt (before ++ left) c (cs ++ right) = lowerAt before c cs := by
      rw [lowerAt, lowerAt, isFinalSigma, isFinalSigma, startsCased_append_blanks hleft,
        startsCased_append_blanks hright]
    rw [List.cons_append, lowerFrom, lowerFrom, hat, List.append_assoc]
    exact congrArg _ (ih (c :: before))

theorem lowerChars_blanks {left right : List Char} (hleft : ∀ c ∈ left, isBlank c)
    (hright : ∀ c ∈ right, isBlank c) (cs : List Char) :
    lowerChars (left ++ cs ++ right) = left ++ lowerChars cs ++ right := by
  have hstart : ∀ (left seen : List Char), (∀ c ∈ left, isBlank c) → ∀ rest,
      lowerFrom seen (left ++ rest) = left ++ lowerFrom (left.reverse ++ seen) rest := by
    intro left
    induction left with
    | nil => intros; rfl
    | cons c left ih =>
      intro seen h rest
      obtain ⟨hc, hleft⟩ := List.forall_mem_cons.mp h
      rw [List.cons_append, lowerFrom, kept_of_isBlank hc, ih _ hleft]
      simp
  have hreverse : ∀ c ∈ left.reverse, isBlank c := fun c hc => hleft c (List.mem_reverse.mp hc)
  rw [lowerChars, List.append_assoc, hstart left [] hleft, List.append_nil, List.append_assoc]
  exact congrArg _ (lowerFrom_blanks hreverse hright [] cs)

end CardBinder.Text
