import CardBinder.Text.Blank
import CardBinder.Text.Fold
import CardBinder.Text.Lowercase
import Mathlib.Data.List.Chain

/-! Lower-casing against case folding: the lower-case form of a character is alike to the character itself,
but for the dotted capital I and for the few capitals that case folding does not know. -/

namespace CardBinder.Text

deriving instance DecidableEq for CaseRun

variable {rs : List CaseRun} {r s : CaseRun} {c y z : Char} {n : Nat}

/-- Codes that are not of a character give the first one. -/
theorem toNat_ofNat_cases (n : Nat) : (Char.ofNat n).toNat = n ∨ (Char.ofNat n).toNat = 0 := by
  by_cases h : n.isValidChar
  · rw [Char.ofNat, dif_pos h]
    exact .inl rfl
  · rw [Char.ofNat, dif_neg h]
    exact .inr rfl

/-! Tables of runs -/

namespace CaseRun

theorem bounds_of_holds (h : r.holds n) : r.first ≤ n ∧ n ≤ r.last := by
  simp only [holds, Bool.and_eq_true, decide_eq_true_eq] at h
  exact h.1

def image (r : CaseRun) (n : Nat) : Nat := r.target + (n - r.first)

def lastImage (r : CaseRun) : Nat := r.image r.last

theorem image_bounds (h : r.holds n) : r.target ≤ r.image n ∧ r.image n ≤ r.lastImage := by
  have := bounds_of_holds h
  simp only [image, lastImage]
  omega

/-- The images of a run lie outside of another one, or between its characters. -/
def clears (r s : CaseRun) : Bool :=
  Nat.blt s.last r.target || Nat.blt r.lastImage s.first ||
    (s.stride == 2 && (r.stride == 2 || r.first == r.last) && (r.target + s.first) % 2 == 1)

theorem not_holds_of_clears (h : r.clears s) (hn : r.holds n) : ¬ s.holds (r.image n) := by
  intro hs
  have hbounds := image_bounds hn
  have hheld := bounds_of_holds hs
  simp only [clears, Bool.or_eq_true, Bool.and_eq_true, Nat.blt_eq, beq_iff_eq] at h
  rcases h with (h | h) | ⟨⟨hs2, hr2⟩, hodd⟩
  · omega
  · omega
  · simp only [holds, Bool.and_eq_true, decide_eq_true_eq, beq_iff_eq, hs2] at hn hs
    simp only [image] at hs
    rcases hr2 with hr2 | hr2
    · rw [hr2] at hn
      omega
    · omega

/-- The images of two runs are apart. -/
def besides (r s : CaseRun) : Bool :=
  Nat.blt r.lastImage s.target || Nat.blt s.lastImage r.target

theorem image_ne_of_besides (h : r.besides s) {m : Nat} (hn : r.holds n) (hm : s.holds m) :
    s.image m ≠ r.image n := by
  have := image_bounds hn
  have := image_bounds hm
  simp only [besides, Bool.or_eq_true, Nat.blt_eq] at h
  omega

end CaseRun

/-- Every run ends before the next one begins. -/
def Apart (rs : List CaseRun) : Prop :=
  rs.IsChain fun a b => a.last < b.first ∧ b.first ≤ b.last

theorem Apart.find? (h : Apart rs) (hr : r ∈ rs) (hn : r.holds n) :
    rs.find? (fun r => r.holds n) = some r := by
  have htrans : IsTrans CaseRun fun a b => a.last < b.first ∧ b.first ≤ b.last :=
    ⟨fun a b c hab hbc => ⟨by omega, hbc.2⟩⟩
  have hpairs := List.isChain_iff_pairwise.mp h
  clear h
  induction rs with
  | nil => cases hr
  | cons a rs ih =>
    obtain ⟨ha, hrs⟩ := List.pairwise_cons.mp hpairs
    rcases List.mem_cons.mp hr with rfl | hr
    · simp [hn]
    · have hskip : ¬ a.holds n := by
        intro hheld
        have := ha r hr
        have := CaseRun.bounds_of_holds hheld
        have := CaseRun.bounds_of_holds hn
        omega
      rw [List.find?_cons]
      simp only [hskip]
      exact ih hr hrs

theorem Apart.applyRuns (h : Apart rs) (hr : r ∈ rs) (hn : r.holds c.toNat) :
    applyRuns rs c = Char.ofNat (r.image c.toNat) := by
  rw [Text.applyRuns, h.find? hr hn]
  rfl

/-- A character that no run holds stays. -/
theorem applyRuns_of_not_holds (h : ∀ r ∈ rs, ¬ r.holds c.toNat) : applyRuns rs c = c := by
  rw [applyRuns, List.find?_eq_none.mpr h]

theorem applyRuns_cases (rs : List CaseRun) (c : Char) : applyRuns rs c = c ∨
    ∃ r ∈ rs, r.holds c.toNat ∧ applyRuns rs c = Char.ofNat (r.image c.toNat) := by
  cases hfind : rs.find? (fun r => r.holds c.toNat) with
  | none => exact .inl (applyRuns_of_not_holds (List.find?_eq_none.mp hfind))
  | some r =>
    refine .inr ⟨r, List.mem_of_find?_eq_some hfind, ?_, ?_⟩
    · have hheld := List.find?_some hfind
      exact hheld
    · rw [applyRuns, hfind]
      rfl

/-! The two tables -/

theorem apart_foldRuns : Apart foldRuns := by
  unfold Apart
  decide +kernel

/-- The capitals of Cherokee, which folding keeps and sends their small letters to. -/
def cherokeeRuns : List CaseRun :=
  [⟨0x13A0, 0x13EF, 1, 0xAB70⟩, ⟨0x13F0, 0x13F5, 1, 0x13F8⟩]

/-- A run of capitals of which folding knows only some. -/
def brokenRun : CaseRun := ⟨0xA7CC, 0xA7DA, 2, 0xA7CD⟩

/-- The capitals that folding does not know. -/
def strayRuns : List CaseRun :=
  [⟨0xA7CE, 0xA7CE, 1, 0xA7CF⟩, ⟨0xA7D2, 0xA7D4, 2, 0xA7D3⟩, ⟨0x16EA0, 0x16EB8, 1, 0x16EBB⟩]

theorem lowercaseRuns_cases (h : r ∈ lowercaseRuns) :
    r ∈ foldRuns ∨ r ∈ cherokeeRuns ∨ r = brokenRun ∨ r ∈ strayRuns := by
  have hsublist : (lowercaseRuns.filter fun r =>
      !(cherokeeRuns.contains r || r == brokenRun || strayRuns.contains r)).isSublist foldRuns := by
    decide +kernel
  by_cases hr : cherokeeRuns.contains r || r == brokenRun || strayRuns.contains r
  · simp only [Bool.or_eq_true, List.contains_iff_mem, beq_iff_eq, or_assoc] at hr
    exact .inr hr
  · exact .inl ((List.isSublist_iff_sublist.mp hsublist).subset
      (List.mem_filter.mpr ⟨h, by simpa using hr⟩))

theorem foldRuns_clear (hr : r ∈ foldRuns) (hs : s ∈ foldRuns) : r.clears s := by
  have hall : foldRuns.all fun r => foldRuns.all r.clears := by decide +kernel
  exact List.all_eq_true.mp (List.all_eq_true.mp hall r hr) s hs

theorem foldRuns_first_pos (hr : r ∈ foldRuns) : 0 < r.first := by
  have hall : foldRuns.all fun r => Nat.blt 0 r.first := by decide +kernel
  exact Nat.le_of_ble_eq_true (List.all_eq_true.mp hall r hr)

theorem not_holds_zero (hr : r ∈ foldRuns) : ¬ r.holds 0 := by
  intro h
  have := CaseRun.bounds_of_holds h
  have := foldRuns_first_pos hr
  omega

/-! Folding -/

@[simp] theorem alike_self (c : Char) : alike c c := beq_self_eq_true (foldChar c)

theorem foldChar_of_not_holds (h : ∀ r ∈ foldRuns, ¬ r.holds c.toNat) : foldChar c = c := by
  have hascii : ∀ n < 128, ¬ (⟨0x41, 0x5A, 1, 0x61⟩ : CaseRun).holds n →
      (Char.ofNat n).toLower = Char.ofNat n := by
    decide
  rw [foldChar]
  split
  · rename_i hlt
    have hlower := hascii c.toNat hlt (h _ List.mem_cons_self)
    rwa [Char.ofNat_toNat] at hlower
  · exact applyRuns_of_not_holds h

/-- What a run of the folding table sends characters to is folded to itself. -/
theorem foldChar_image (hr : r ∈ foldRuns) (hn : r.holds n) :
    foldChar (Char.ofNat (r.image n)) = Char.ofNat (r.image n) := by
  refine foldChar_of_not_holds fun s hs => ?_
  rcases toNat_ofNat_cases (r.image n) with hcode | hcode <;> rw [hcode]
  · exact CaseRun.not_holds_of_clears (foldRuns_clear hr hs) hn
  · exact not_holds_zero hs

theorem foldChar_of_holds (hfar : 0x80 ≤ c.toNat) (hr : r ∈ foldRuns) (hn : r.holds c.toNat) :
    foldChar c = Char.ofNat (r.image c.toNat) := by
  rw [foldChar, if_neg (by omega), apart_foldRuns.applyRuns hr hn]

/-! Characters that lower-casing keeps alike -/

/-- The lower-case form is one character, alike to the character itself. -/
def LowersAlike (c : Char) : Prop :=
  c ≠ 'İ' ∧ alike (lowerChar c) c

instance (c : Char) : Decidable (LowersAlike c) := inferInstanceAs (Decidable (_ ∧ _))

theorem lowersAlike_of_all {cs : List Char} (h : cs.all (LowersAlike ·)) : ∀ c ∈ cs, LowersAlike c := by
  simpa using h

theorem alike_lowerChar_of_foldRuns (hfar : 0x80 ≤ c.toNat) (hr : r ∈ foldRuns)
    (hn : r.holds c.toNat) (hlower : lowerChar c = Char.ofNat (r.image c.toNat)) :
    alike (lowerChar c) c := by
  rw [alike, beq_iff_eq, foldChar_of_holds hfar hr hn, hlower, foldChar_image hr hn]

/-- A small letter of Cherokee is folded to the capital that it is the small letter of. -/
theorem alike_lowerChar_of_cherokeeRuns (hr : r ∈ cherokeeRuns) (hn : r.holds c.toNat)
    (hlower : lowerChar c = Char.ofNat (r.image c.toNat)) : alike (lowerChar c) c := by
  have hback : ∀ r ∈ cherokeeRuns,
      (⟨r.target, r.lastImage, 1, r.first⟩ : CaseRun) ∈ foldRuns ∧ r.stride = 1 ∧
        0x80 ≤ r.first ∧ 0x80 ≤ r.target ∧ r.lastImage < 0xD800 ∧
        foldRuns.all fun s => Nat.blt s.last r.first || Nat.blt r.last s.first := by
    decide +kernel
  obtain ⟨hmem, hstride, hfirst, htarget, hlast, hoff⟩ := hback r hr
  have hbounds := CaseRun.bounds_of_holds hn
  have himage := CaseRun.image_bounds hn
  have hkept : foldChar c = c := by
    refine foldChar_of_not_holds fun s hs hheld => ?_
    have := CaseRun.bounds_of_holds hheld
    have := List.all_eq_true.mp hoff s hs
    simp only [Bool.or_eq_true, Nat.blt_eq] at this
    omega
  have hvalue : (Char.ofNat (r.image c.toNat)).toNat = r.image c.toNat := by
    rw [Char.ofNat, dif_pos (.inl (by omega))]
    rfl
  generalize Char.ofNat (r.image c.toNat) = y at hlower hvalue
  have hheld : (⟨r.target, r.lastImage, 1, r.first⟩ : CaseRun).holds (r.image c.toNat) := by
    simp [CaseRun.holds, himage, Nat.mod_one]
  have hreturn : (⟨r.target, r.lastImage, 1, r.first⟩ : CaseRun).image (r.image c.toNat) = c.toNat := by
    change r.first + (r.target + (c.toNat - r.first) - r.target) = c.toNat
    omega
  have hsent : foldChar y = c := by
    have hfar : 0x80 ≤ y.toNat := by omega
    rw [← hvalue] at hheld
    rw [foldChar_of_holds hfar hmem hheld, hvalue, hreturn, Char.ofNat_toNat]
  rw [alike, beq_iff_eq, hlower, hsent, hkept]

theorem brokenRun_cases (hn : brokenRun.holds n) :
    alike (lowerChar (Char.ofNat n)) (Char.ofNat n) ∨
      ∃ r ∈ strayRuns, r.holds n ∧ r.image n = brokenRun.image n := by
  have hall : ∀ n ∈ [0xA7CC, 0xA7CE, 0xA7D0, 0xA7D2, 0xA7D4, 0xA7D6, 0xA7D8, 0xA7DA],
      alike (lowerChar (Char.ofNat n)) (Char.ofNat n) ∨
        ∃ r ∈ strayRuns, r.holds n ∧ r.image n = brokenRun.image n := by
    decide +kernel
  refine hall n ?_
  simp only [CaseRun.holds, Bool.and_eq_true, decide_eq_true_eq, beq_iff_eq] at hn
  change (0xA7CC ≤ n ∧ n ≤ 0xA7DA) ∧ (n - 0xA7CC) % 2 = 0 at hn
  simp only [List.mem_cons, List.not_mem_nil, or_false]
  omega

/-- A character is alike to its lower-case form unless it is a capital that folding does not know. -/
theorem alike_lowerChar_or_stray (c : Char) : alike (lowerChar c) c ∨
    ∃ r ∈ strayRuns, r.holds c.toNat ∧ lowerChar c = Char.ofNat (r.image c.toNat) := by
  rcases Nat.lt_or_ge c.toNat 0x80 with hlt | hfar
  · have hascii : ∀ n < 0x80, alike (lowerChar (Char.ofNat n)) (Char.ofNat n) := by
      decide +kernel
    have halike := hascii c.toNat hlt
    rw [Char.ofNat_toNat] at halike
    exact .inl halike
  · have hlower : lowerChar c = applyRuns lowercaseRuns c := by
      rw [lowerChar, if_neg (by omega)]
    rcases applyRuns_cases lowercaseRuns c with hkept | ⟨r, hr, hn, hsent⟩
    · rw [hlower, hkept]
      exact .inl (alike_self c)
    · rw [hsent] at hlower
      rcases lowercaseRuns_cases hr with hr | hr | rfl | hr
      · exact .inl (alike_lowerChar_of_foldRuns hfar hr hn hlower)
      · exact .inl (alike_lowerChar_of_cherokeeRuns hr hn hlower)
      · rcases brokenRun_cases hn with halike | ⟨r, hr, hheld, himage⟩
        · rw [Char.ofNat_toNat] at halike
          exact .inl halike
        · exact .inr ⟨r, hr, hheld, by rw [himage, hlower]⟩
      · exact .inr ⟨r, hr, hn, hlower⟩

/-! Characters that lower-casing puts in the place of one that is not alike -/

/-- Lower-casing leaves the character as it is, whatever stands around it. -/
def Kept (y : Char) : Prop :=
  ∀ before after, lowerAt before y after = [y]

/-- A character that is alike to no other, and that lower-casing keeps. -/
structure Lone (y : Char) : Prop where
  alone : ∀ z, foldChar z = foldChar y → z = y
  kept : Kept y
  far : 0x80 ≤ y.toNat
  notBlank : isBlank y = false

theorem Lone.countP_eq (hy : Lone y) (cs : List Char) :
    cs.countP (foldChar · = foldChar y) = cs.count y :=
  List.countP_congr fun c _ => by simpa using ⟨hy.alone c, fun h => h ▸ rfl⟩

theorem Lone.foldChar_ne (hy : Lone y) (hc : c.toNat < 0x80) : foldChar c ≠ foldChar y := by
  intro hfold
  have hfar := hy.far
  rw [← hy.alone c hfold] at hfar
  omega

/-- The dotted capital I with the dot that its lower-case form ends with. -/
def dottedRun : CaseRun := ⟨0x130, 0x130, 1, 0x307⟩

/-- The dot above and the small letters of the capitals that folding does not know are out of both
tables, as characters that are sent and as characters that others are sent to. -/
theorem lone_image (hr : r ∈ dottedRun :: strayRuns) (hn : r.holds n) :
    Lone (Char.ofNat (r.image n)) := by
  have hclear : ∀ r ∈ dottedRun :: strayRuns,
      foldRuns.all (fun s => r.clears s && r.besides s) && lowercaseRuns.all r.clears := by
    decide +kernel
  have hplace : ∀ r ∈ dottedRun :: strayRuns, r.target = 0x307 ∧ r.lastImage = 0x307 ∨
      0xA7CF ≤ r.target ∧ r.lastImage < 0xD800 ∨ 0xE000 ≤ r.target ∧ r.lastImage < 0x110000 := by
    decide
  have hruns := hclear r hr
  simp only [Bool.and_eq_true, List.all_eq_true] at hruns
  have himage := CaseRun.image_bounds hn
  have hat := hplace r hr
  have hvalue : (Char.ofNat (r.image n)).toNat = r.image n := by
    rw [Char.ofNat, dif_pos]
    · rfl
    · rw [Nat.isValidChar]
      omega
  generalize Char.ofNat (r.image n) = y at hvalue ⊢
  have hkept : foldChar y = y := foldChar_of_not_holds fun s hs =>
    hvalue ▸ CaseRun.not_holds_of_clears (hruns.1 s hs).1 hn
  refine ⟨fun z hz => ?_, fun before after => ?_, by omega, ?_⟩
  · rw [hkept, foldChar] at hz
    split at hz
    · rename_i hlt
      have hascii : ∀ n < 0x80, (Char.ofNat n).toLower.toNat < 0x80 := by decide
      have hsmall := hascii z.toNat hlt
      rw [Char.ofNat_toNat, hz] at hsmall
      omega
    · rcases applyRuns_cases foldRuns z with hstays | ⟨s, hs, hheld, hsent⟩
      · exact hstays.symm.trans hz
      · have hne := CaseRun.image_ne_of_besides (hruns.1 s hs).2 hn hheld
        have hcode := congrArg Char.toNat (hz.symm.trans hsent)
        rcases toNat_ofNat_cases (s.image z.toNat) with hsame | hzero
        · exact absurd (hsame.symm.trans (hcode.symm.trans hvalue)) hne
        · omega
  · have hlower : lowerChar y = y := by
      rw [lowerChar, if_neg (by omega)]
      exact applyRuns_of_not_holds fun s hs =>
        hvalue ▸ CaseRun.not_holds_of_clears (hruns.2 s hs) hn
    have hsigma : y ≠ 'Σ' := by
      rintro rfl
      change 0x3A3 = _ at hvalue
      omega
    have hdotted : y ≠ 'İ' := by
      rintro rfl
      change 0x130 = _ at hvalue
      omega
    simp [lowerAt, hsigma, hdotted, hlower]
  · simp only [isBlank, hvalue, Bool.or_eq_false_iff, Bool.and_eq_false_iff, decide_eq_false_iff_not,
      beq_eq_false_iff_ne]
    omega

/-- What is not alike to its lower-case form brings a lone character into it. -/
theorem exists_lone (h : ¬ LowersAlike c) :
    ∃ y, Lone y ∧ y ≠ c ∧ ∀ before after, y ∈ lowerAt before c after := by
  by_cases hdotted : c = 'İ'
  · subst hdotted
    exact ⟨'\u0307', lone_image (r := dottedRun) (n := 0x130) List.mem_cons_self (by decide),
      by decide, fun _ _ => show '\u0307' ∈ ['i', '\u0307'] by decide⟩
  · have hnot : ¬ alike (lowerChar c) c := fun halike => h ⟨hdotted, halike⟩
    obtain ⟨r, hr, hn, hlower⟩ := (alike_lowerChar_or_stray c).resolve_left hnot
    have hsigma : c ≠ 'Σ' := by
      rintro rfl
      exact h (by decide +kernel)
    refine ⟨lowerChar c, hlower ▸ lone_image (List.mem_cons_of_mem _ hr) hn, ?_, fun _ _ => ?_⟩
    · intro hsame
      rw [hsame] at hnot
      exact hnot (alike_self c)
    · simp [lowerAt, hsigma, hdotted]

end CardBinder.Text
