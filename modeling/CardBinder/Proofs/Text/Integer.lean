import CardBinder.Text.Blank
import CardBinder.Text.Cut
import CardBinder.Text.Digits
import CardBinder.Text.Integer
import CardBinder.Text.Lowercase
import Mathlib.Data.List.Basic

/-! Numbers are read as they are written, and none of them is a word. -/

namespace CardBinder.Text
variable {c : Char} {cs : List Char}

/-! The digits numbers are written in -/

theorem toNat_of_isDigit (h : c.isDigit) : 48 ≤ c.toNat ∧ c.toNat ≤ 57 := by
  simpa [Char.isDigit, UInt32.le_iff_toNat_le] using h

theorem isBlank_of_isDigit (h : c.isDigit) : isBlank c = false := by
  have hrange := toNat_of_isDigit h
  simp only [isBlank, Bool.or_eq_false_iff, Bool.and_eq_false_iff, decide_eq_false_iff_not,
    beq_eq_false_iff_ne]
  omega

theorem isDecimalDigit_of_isDigit (h : c.isDigit) : isDecimalDigit c = true := by
  refine List.any_eq_true.mpr ⟨⟨0x30, 0x39⟩, List.mem_cons_self, ?_⟩
  simpa [CodeRange.holds] using toNat_of_isDigit h

theorem toLower_of_isDigit (h : c.isDigit) : c.toLower = c := by
  refine dif_neg ?_
  simp only [Char.isDigit, ge_iff_le, UInt32.le_iff_toNat_le, Bool.and_eq_true,
    decide_eq_true_eq] at h ⊢
  have h9 : '9'.val.toNat = 57 := rfl
  have hA : 'A'.val.toNat = 65 := rfl
  omega

theorem head?_lowerChars (h : c.isDigit) (cs : List Char) :
    (lowerChars (c :: cs)).head? = some c := by
  have hrange := toNat_of_isDigit h
  have hsigma : (c == 'Σ') = false := beq_eq_false_iff_ne.mpr (by rintro rfl; cases h)
  have hdotted : (c == 'İ') = false := beq_eq_false_iff_ne.mpr (by rintro rfl; cases h)
  have hlower : lowerChar c = c := by
    rw [lowerChar, if_pos (by omega), toLower_of_isDigit h]
  simp only [lowerChars, lowerFrom, lowerAt, hsigma, hdotted, hlower, Bool.false_eq_true, if_false]
  rfl

/-! Whole numbers -/

theorem isDigit_of_mem_toDigits {n : Nat} (h : c ∈ Nat.toDigits 10 n) : c.isDigit :=
  Nat.isDigit_of_mem_toDigits (by decide) (by decide) h

theorem digitsValue_eq (h : ∀ c ∈ cs, c.isDigit) (acc : Nat) :
    digitsValue acc cs = some (Nat.ofDigitChars 10 cs acc) := by
  induction cs generalizing acc with
  | nil => rfl
  | cons c cs ih =>
    obtain ⟨hc, hcs⟩ := List.forall_mem_cons.mp h
    rw [digitsValue, digitValue?, if_pos hc, Option.bind_some, ih hcs]
    rfl

theorem isDigit_of_digitsValue {acc n : Nat} (h : digitsValue acc cs = some n) :
    ∀ c ∈ cs, c.isDigit := by
  induction cs generalizing acc with
  | nil => simp
  | cons c cs ih =>
    rw [digitsValue, digitValue?] at h
    split at h
    · rename_i hc
      exact List.forall_mem_cons.mpr ⟨hc, ih h⟩
    · cases h

theorem natOfDigits?_toDigits (n : Nat) : natOfDigits? (Nat.toDigits 10 n) = some n := by
  have hdigits : ∀ c ∈ Nat.toDigits 10 n, c.isDigit := fun _ => isDigit_of_mem_toDigits
  rw [natOfDigits?, if_neg (by simp [Nat.toDigits_ne_nil]), digitsValue_eq hdigits,
    Nat.ofDigitChars_toDigits (by decide) (by decide)]

theorem toDigits_injective : Function.Injective (Nat.toDigits 10) :=
  Function.LeftInverse.injective (g := fun digits => Nat.ofDigitChars 10 digits 0) fun _ =>
    Nat.ofDigitChars_toDigits (by decide) (by decide)

/-- Whole numbers are written in digits, those below zero behind a minus sign. -/
theorem toList_toString (n : Int) :
    (toString n).toList = (if n < 0 then ['-'] else []) ++ Nat.toDigits 10 n.natAbs := by
  cases n with
  | ofNat n => exact Nat.toList_repr
  | negSucc n =>
    have hsign : toString (Int.negSucc n) = "-" ++ (n + 1).repr := rfl
    rw [hsign, String.toList_append, Nat.toList_repr, if_pos (Int.negSucc_lt_zero n)]
    rfl

theorem minus_or_isDigit_of_mem_toString {n : Int} (h : c ∈ (toString n).toList) :
    c = '-' ∨ c.isDigit := by
  rw [toList_toString] at h
  rcases List.mem_append.mp h with h | h
  · split at h
    · exact .inl (List.mem_singleton.mp h)
    · cases h
  · exact .inr (isDigit_of_mem_toDigits h)

theorem toString_injective : Function.Injective (toString : Int → String) := by
  intro m n h
  have hlist := congrArg String.toList h
  rw [toList_toString, toList_toString] at hlist
  have hminus : ∀ k : Nat, '-' ∉ Nat.toDigits 10 k := fun k hmem => by
    cases isDigit_of_mem_toDigits hmem
  split at hlist <;> split at hlist
  · have := toDigits_injective (List.append_cancel_left hlist)
    omega
  · have hhead : '-' ∈ [] ++ Nat.toDigits 10 n.natAbs := hlist ▸ List.mem_cons_self
    exact absurd hhead (hminus n.natAbs)
  · have hhead : '-' ∈ [] ++ Nat.toDigits 10 m.natAbs := hlist ▸ List.mem_cons_self
    exact absurd hhead (hminus m.natAbs)
  · have := toDigits_injective hlist
    omega

/-! Digits of any script -/

theorem isDecimalDigit_of_isBlank (h : isBlank c = true) : isDecimalDigit c = false := by
  have hapart : ∀ r ∈ digitRanges, 0x20 < r.first ∧ (r.last < 0x85 ∨ 0xA0 < r.first) ∧
      (r.last < 0x1680 ∨ 0x1680 < r.first) ∧ (r.last < 0x2000 ∨ 0x3000 < r.first) := by decide
  simp only [isBlank, Bool.or_eq_true, Bool.and_eq_true, decide_eq_true_eq, beq_iff_eq] at h
  refine List.any_eq_false.mpr fun r hr => ?_
  have hr := hapart r hr
  simp only [CodeRange.holds, Bool.and_eq_true, decide_eq_true_eq]
  omega

/-- What a decimal digit is worth: the ten digits of a script stand in a row. -/
def scriptValue (c : Char) : Nat :=
  match digitRanges.find? (·.holds c.toNat) with
  | some r => (c.toNat - r.first) % 10
  | none => 0

/-- The number that decimal digits write, in whatever script. -/
def scriptNumber (digits : List Char) : Nat :=
  digits.foldl (fun n c => 10 * n + scriptValue c) 0

theorem scriptValue_of_isDigit (h : c.isDigit) : scriptValue c = c.toNat - '0'.toNat := by
  have hrange := toNat_of_isDigit h
  have hfind : digitRanges.find? (·.holds c.toNat) = some ⟨0x30, 0x39⟩ :=
    List.find?_cons_of_pos (by simpa [CodeRange.holds] using hrange)
  have hzero : '0'.toNat = 48 := rfl
  rw [scriptValue, hfind]
  simp only
  omega

theorem scriptNumber_eq (h : ∀ c ∈ cs, c.isDigit) : scriptNumber cs = Nat.ofDigitChars 10 cs 0 := by
  refine List.foldl_ext _ _ _ fun n c hc => ?_
  rw [scriptValue_of_isDigit (h c hc)]

/-- Counts are read in ASCII digits only. -/
theorem countOfChars?_eq_some_iff (hne : cs ≠ []) {n : Nat} : countOfChars? cs = some n ↔
    scriptNumber cs = n ∧ n ≤ maxCount ∧ ∀ c ∈ cs, c.isDigit := by
  rw [countOfChars?, natOfDigits?, if_neg (by simpa using hne)]
  constructor
  · intro h
    obtain ⟨m, hm, hcount⟩ := Option.bind_eq_some_iff.mp h
    have hdigits := isDigit_of_digitsValue hm
    rw [digitsValue_eq hdigits, ← scriptNumber_eq hdigits] at hm
    obtain rfl := Option.some.inj hm
    split at hcount
    · rename_i hfits
      obtain rfl := Option.some.inj hcount
      exact ⟨rfl, hfits, hdigits⟩
    · cases hcount
  · rintro ⟨rfl, hfits, hdigits⟩
    rw [digitsValue_eq hdigits, ← scriptNumber_eq hdigits, Option.bind_some, if_pos hfits]

/-- A number without a sign is read as it is written. -/
theorem cardNumber?_toString {n : Nat} (h : isCardNumber n) :
    cardNumber? (toString (n : Int)) = some (n : Int) := by
  have hchars : (toString (n : Int)).toList = Nat.toDigits 10 n := Nat.toList_repr
  have hsign : ∀ c cs, Nat.toDigits 10 n = c :: cs → c ≠ '+' ∧ c ≠ '-' := by
    intro c cs hcs
    have hc := isDigit_of_mem_toDigits (hcs ▸ List.mem_cons_self : c ∈ Nat.toDigits 10 n)
    constructor <;> rintro rfl <;> cases hc
  rw [cardNumber?, hchars]
  split
  · rename_i cs hcs
    exact absurd rfl (hsign _ _ hcs).1
  · rename_i cs hcs
    exact absurd rfl (hsign _ _ hcs).2
  · rw [natOfDigits?_toDigits]
    exact if_pos h

theorem sameAscii_toString (n : Nat) {word : String}
    (h : (word.toList.map Char.toLower).any Char.isDigit = false) :
    sameAscii (toString (n : Int)) word = false := by
  have hchars : (toString (n : Int)).toList = Nat.toDigits 10 n := Nat.toList_repr
  rw [sameAscii, hchars, beq_eq_false_iff_ne]
  intro heq
  obtain ⟨c, cs, hcs⟩ := List.exists_cons_of_ne_nil (Nat.toDigits_ne_nil (n := n) (b := 10))
  have hdigit : c.isDigit := isDigit_of_mem_toDigits (hcs ▸ List.mem_cons_self)
  refine List.any_eq_false.mp h c.toLower (heq ▸ List.mem_map_of_mem (hcs ▸ List.mem_cons_self)) ?_
  rwa [toLower_of_isDigit hdigit]

end CardBinder.Text
