import CardBinder.Proofs.Holder.DeckLine

/-! What a line says about a card, whatever it looks like: a number in front that is set off from the
name, and a name. -/

namespace CardBinder.DeckLine
open Text (isBlank isDecimalDigit Bare)
variable {digits line rest cs gap inner before : List Char}

/-! The number in front -/

/-- What sets a number off from a name: blanks, or an x with a blank behind it. -/
inductive Gap : List Char → Prop
  | blanks {gap : List Char} : gap ≠ [] → (∀ c ∈ gap, isBlank c) → Gap gap
  | cross {before after : List Char} {x : Char} : (∀ c ∈ before, isBlank c) → x = 'x' ∨ x = 'X' →
      after ≠ [] → (∀ c ∈ after, isBlank c) → Gap (before ++ x :: after)

/-- The decimal digits, of any script, are set off at the start of the line. -/
structure Leads (digits line : List Char) : Prop where
  nonempty : digits ≠ []
  decimal : ∀ c ∈ digits, isDecimalDigit c
  setOff : ∃ gap rest, Gap gap ∧ line = digits ++ (gap ++ rest)

theorem Gap.exists_cons (h : Gap gap) :
    ∃ c rest, gap = c :: rest ∧ isDecimalDigit c = false := by
  cases h with
  | blanks hne hblank =>
    obtain ⟨c, rest, rfl⟩ := List.exists_cons_of_ne_nil hne
    exact ⟨c, rest, rfl, Text.isDecimalDigit_of_isBlank (hblank c List.mem_cons_self)⟩
  | @cross before after x hblank hx _ _ =>
    cases before with
    | nil => exact ⟨x, after, rfl, by rcases hx with rfl | rfl <;> decide⟩
    | cons c before =>
      exact ⟨c, _, rfl, Text.isDecimalDigit_of_isBlank (hblank c List.mem_cons_self)⟩

theorem exists_concat_of_blank (hne : cs ≠ []) (hblank : ∀ c ∈ cs, isBlank c) :
    ∃ before c, cs = before ++ [c] ∧ isBlank c :=
  ⟨cs.dropLast, cs.getLast hne, (List.dropLast_append_getLast hne).symm,
    hblank _ (List.getLast_mem hne)⟩

theorem Gap.exists_concat (h : Gap gap) : ∃ before c, gap = before ++ [c] ∧ isBlank c := by
  cases h with
  | blanks hne hblank => exact exists_concat_of_blank hne hblank
  | @cross before after x _ _ hne hblank =>
    obtain ⟨rest, c, rfl, hc⟩ := exists_concat_of_blank hne hblank
    exact ⟨before ++ x :: rest, c, by simp, hc⟩

/-- A line without blanks at its end goes on behind a gap. -/
theorem Gap.exists_rest (h : Gap gap) (hline : Bare (cs ++ (gap ++ rest))) :
    ∃ c after, rest.dropWhile isBlank = c :: after := by
  refine List.exists_cons_of_ne_nil fun hblank => ?_
  rw [List.dropWhile_eq_nil_iff] at hblank
  obtain ⟨before, c, heq, hc⟩ : ∃ before c, cs ++ (gap ++ rest) = before ++ [c] ∧ isBlank c := by
    by_cases hne : rest = []
    · obtain ⟨before, c, rfl, hc⟩ := h.exists_concat
      exact ⟨cs ++ before, c, by simp [hne], hc⟩
    · obtain ⟨before, c, rfl, hc⟩ := exists_concat_of_blank hne hblank
      exact ⟨cs ++ (gap ++ before), c, by simp, hc⟩
  have hlast := (heq ▸ hline).isBlank_last
  rw [hc] at hlast
  cases hlast

theorem afterBlanks?_some (h : afterBlanks? cs = some rest) :
    ∃ gap, cs = gap ++ rest ∧ gap ≠ [] ∧ (∀ c ∈ gap, isBlank c) ∧ rest.dropWhile isBlank = rest := by
  cases cs with
  | nil => cases h
  | cons c cs =>
    rw [afterBlanks?] at h
    split at h
    · rename_i hc
      obtain rfl := Option.some.inj h
      refine ⟨c :: cs.takeWhile isBlank, ?_, List.cons_ne_nil _ _, ?_, List.dropWhile_idempotent _ _⟩
      · rw [List.cons_append, List.takeWhile_append_dropWhile]
      · exact List.forall_mem_cons.mpr ⟨hc, fun _ => List.mem_takeWhile_imp⟩
    · cases h

theorem isSome_afterBlanks? (hne : gap ≠ []) (hblank : ∀ c ∈ gap, isBlank c) (rest : List Char) :
    (afterBlanks? (gap ++ rest)).isSome := by
  obtain ⟨c, gap, rfl⟩ := List.exists_cons_of_ne_nil hne
  rw [List.cons_append, afterBlanks?, if_pos (hblank c List.mem_cons_self)]
  rfl

theorem afterCount?_some (h : afterCount? cs = some rest) :
    ∃ gap, Gap gap ∧ cs = gap ++ rest ∧ rest.dropWhile isBlank = rest := by
  have hplain : afterBlanks? cs = some rest →
      ∃ gap, Gap gap ∧ cs = gap ++ rest ∧ rest.dropWhile isBlank = rest := by
    intro h
    obtain ⟨gap, heq, hne, hblank, hstart⟩ := afterBlanks?_some h
    exact ⟨gap, .blanks hne hblank, heq, hstart⟩
  rw [afterCount?] at h
  split at h
  · cases h
  · rename_i x after hafter
    split at h
    · rename_i hx
      split at h
      · rename_i hcross
        obtain rfl := Option.some.inj h
        obtain ⟨gap, rfl, hne, hblank, hstart⟩ := afterBlanks?_some hcross
        refine ⟨cs.takeWhile isBlank ++ x :: gap,
          .cross (fun _ => List.mem_takeWhile_imp) (by simpa using hx) hne hblank, ?_, hstart⟩
        rw [List.append_assoc, List.cons_append, ← hafter, List.takeWhile_append_dropWhile]
      · exact hplain h
    · exact hplain h

theorem isSome_afterCount? (h : Gap gap) (hline : Bare (cs ++ (gap ++ rest))) :
    (afterCount? (gap ++ rest)).isSome := by
  obtain ⟨c, name, hafter⟩ := h.exists_rest hline
  cases h with
  | blanks hne hblank =>
    have hplain := isSome_afterBlanks? hne hblank rest
    rw [afterCount?, List.dropWhile_append_of_pos hblank, hafter]
    simp only
    split
    · split
      · rfl
      · exact hplain
    · exact hplain
  | @cross before after x hblank hx hne hblank' =>
    have hletter : ¬ isBlank x = true := by rcases hx with rfl | rfl <;> decide
    obtain ⟨name, hname⟩ := Option.isSome_iff_exists.mp (isSome_afterBlanks? hne hblank' rest)
    rw [afterCount?, List.append_assoc, List.dropWhile_append_of_pos hblank, List.cons_append,
      List.dropWhile_cons_of_neg hletter]
    simp only [hname]
    rw [if_pos (by simpa using hx)]
    rfl

theorem cutCount_some (h : cutCount line = (some digits, rest)) :
    ∃ gap, Gap gap ∧ line = digits ++ (gap ++ rest) ∧ digits ≠ [] ∧
      (∀ c ∈ digits, isDecimalDigit c) ∧ rest.dropWhile isBlank = rest := by
  simp only [cutCount] at h
  split at h
  · cases h
  · rename_i hne
    split at h
    · rename_i name hafter
      obtain ⟨rfl, rfl⟩ : line.takeWhile isDecimalDigit = digits ∧ name = rest := by simpa using h
      obtain ⟨gap, hgap, hline, hstart⟩ := afterCount?_some hafter
      refine ⟨gap, hgap, ?_, by simpa using hne, fun _ => List.mem_takeWhile_imp, hstart⟩
      rw [← hline, List.takeWhile_append_dropWhile]
    · cases h

theorem cutCount_none (h : cutCount line = (none, rest)) : rest = line := by
  simp only [cutCount] at h
  split at h
  · exact (Prod.mk.inj h).2.symm
  · split at h
    · cases h
    · exact (Prod.mk.inj h).2.symm

theorem Leads.cutCount (h : Leads digits line) (hline : Bare line) :
    ∃ rest, cutCount line = (some digits, rest) := by
  obtain ⟨hne, hdecimal, gap, rest, hgap, rfl⟩ := h
  obtain ⟨c, after, hcons, hc⟩ := hgap.exists_cons
  obtain ⟨name, hname⟩ := Option.isSome_iff_exists.mp (isSome_afterCount? hgap hline)
  have htake : (digits ++ (gap ++ rest)).takeWhile isDecimalDigit = digits := by
    rw [List.takeWhile_append_of_pos hdecimal, hcons, List.cons_append,
      List.takeWhile_cons_of_neg (by simp [hc]), List.append_nil]
  have hdrop : (digits ++ (gap ++ rest)).dropWhile isDecimalDigit = gap ++ rest := by
    rw [List.dropWhile_append_of_pos hdecimal, hcons, List.cons_append,
      List.dropWhile_cons_of_neg (by simp [hc])]
  exact ⟨name, by simp [DeckLine.cutCount, htake, hdrop, hname, hne]⟩

/-- A count is read exactly where a number leads the line. -/
theorem count_eq_some_iff (hline : Bare line) :
    (ofChars line).count = some digits ↔ Leads digits line := by
  constructor
  · intro h
    obtain ⟨gap, hgap, hparts, hne, hdecimal, _⟩ := cutCount_some (Prod.ext h rfl)
    exact ⟨hne, hdecimal, gap, _, hgap, hparts⟩
  · intro h
    obtain ⟨rest, hcut⟩ := h.cutCount hline
    exact congrArg Prod.fst hcut

/-! The name -/

theorem closedText?_some (h : closedText? cs = some inner) : cs = inner ++ [']'] := by
  rw [closedText?] at h
  split at h
  · rename_i hclosed
    obtain rfl := Option.some.inj h
    simp only [Bool.and_eq_true, beq_iff_eq] at hclosed
    exact (List.dropLast_append_getLast? _ hclosed.1.1).symm
  · cases h

theorem cutBracket?_some (h : cutBracket? cs = some (before, inner)) :
    cs = before ++ '[' :: inner ++ [']'] := by
  induction cs generalizing before with
  | nil => cases h
  | cons c cs ih =>
    rw [cutBracket?] at h
    split at h
    · rename_i text hclosed
      split at hclosed
      · rename_i hc
        cases h
        rw [beq_iff_eq.mp hc, closedText?_some hclosed]
        rfl
      · cases hclosed
    · obtain ⟨⟨before', inner'⟩, hcut, heq⟩ := Option.map_eq_some_iff.mp h
      cases heq
      rw [ih hcut]
      rfl

/-- A name is written at the start of what is left, and one character at least. -/
theorem exists_written (c : Char) (cs : List Char) :
    ∃ written, (cutExpansion (c :: cs)).1 = c :: written ∧ written <+: cs := by
  rw [cutExpansion]
  split
  · rename_i before inner hcut
    refine ⟨before, rfl, ?_⟩
    rw [cutBracket?_some hcut, List.append_assoc]
    exact List.prefix_append _ _
  · exact ⟨cs, rfl, List.prefix_refl cs⟩

/-- What is left behind a count, or the whole line. -/
theorem exists_left (hline : Bare line) :
    ∃ c rest, (cutCount line).2 = c :: rest ∧ isBlank c = false ∧ c :: rest <:+ line := by
  have hcons : ∀ rest : List Char, rest ≠ [] → rest.dropWhile isBlank = rest →
      ∃ c after, rest = c :: after ∧ isBlank c = false := by
    intro rest hne hstart
    obtain ⟨c, after, rfl⟩ := List.exists_cons_of_ne_nil hne
    have hhead : ¬ isBlank c = true := List.dropWhile_eq_self_iff.mp hstart (Nat.succ_pos _)
    exact ⟨c, after, rfl, by simpa using hhead⟩
  rcases hcut : cutCount line with ⟨_ | digits, rest⟩
  · obtain rfl := cutCount_none hcut
    obtain ⟨c, after, hrest, hc⟩ := hcons rest hline.nonempty hline.start
    exact ⟨c, after, hrest, hc, hrest ▸ List.suffix_refl rest⟩
  · obtain ⟨gap, hgap, rfl, _, _, hstart⟩ := cutCount_some hcut
    obtain ⟨c, after, hrest⟩ := hgap.exists_rest hline
    rw [hstart] at hrest
    obtain ⟨_, _, rfl, hc⟩ := hcons rest (by simp [hrest]) hstart
    exact ⟨_, _, rfl, hc, (List.suffix_append _ _).trans (List.suffix_append _ _)⟩

/-- Every line that is not blank has a name on it. -/
theorem name_ofChars (hline : Bare line) :
    (ofChars line).name ≠ [] ∧ (ofChars line).name <:+: line := by
  obtain ⟨c, rest, hleft, hc, hsuffix⟩ := exists_left hline
  obtain ⟨written, hwritten, hprefix⟩ := exists_written c rest
  have hname : (ofChars line).name = Text.trimChars (c :: written) := by
    rw [← hwritten, ← hleft]
    rfl
  rw [hname]
  constructor
  · intro hempty
    have hhead := Text.head?_trimChars hc written
    rw [hempty] at hhead
    cases hhead
  · have hpart : c :: written <:+: c :: rest := (List.prefix_cons_inj c).mpr hprefix |>.isInfix
    exact (Text.trimChars_isInfix _).trans (hpart.trans hsuffix.isInfix)

end CardBinder.DeckLine
