import CardBinder.Proofs.Like
import CardBinder.Proofs.Regex
import Mathlib.Algebra.GroupWithZero.Nat
import Mathlib.Algebra.Order.BigOperators.Group.List
import Mathlib.Algebra.Order.Group.Nat
import Mathlib.Data.List.Forall2
import Mathlib.Data.List.Infix

/-! A text matches a pattern when it falls into pieces, one for each character of the pattern in turn. -/

namespace CardBinder.Like

/-- The pieces of text that a character of a pattern stands for. -/
inductive Takes : Char → List Char → Prop
  | anyRun (piece : List Char) : Takes '%' piece
  | anyOne (x : Char) : Takes '_' [x]
  | letter {c x : Char} (hrun : c ≠ '%') (hone : c ≠ '_')
      (h : Text.foldChar c = Text.foldChar x) : Takes c [x]

/-- The text falls into pieces that the characters of the pattern stand for, in their order. -/
def Splits (pattern text : List Char) : Prop :=
  ∃ pieces, List.Forall₂ Takes pattern pieces ∧ pieces.flatten = text

variable {pattern text first last piece : List Char} {c x : Char}

theorem takes_one_iff : Takes '_' piece ↔ ∃ x, piece = [x] := by
  constructor
  · rintro (_ | ⟨x⟩ | ⟨_, hone, _⟩)
    · exact ⟨x, rfl⟩
    · exact absurd rfl hone
  · rintro ⟨x, rfl⟩
    exact .anyOne x

theorem takes_letter_iff (hrun : c ≠ '%') (hone : c ≠ '_') :
    Takes c piece ↔ ∃ x, piece = [x] ∧ Text.alike c x := by
  simp only [Text.alike, beq_iff_eq]
  constructor
  · rintro (_ | _ | ⟨_, _, h⟩)
    · exact absurd rfl hrun
    · exact absurd rfl hone
    · exact ⟨_, rfl, h⟩
  · rintro ⟨x, rfl, h⟩
    exact .letter hrun hone h

theorem splits_nil : Splits [] text ↔ text = [] := by
  constructor
  · rintro ⟨_, _ | _, rfl⟩
    rfl
  · rintro rfl
    exact ⟨[], .nil, rfl⟩

theorem splits_cons : Splits (c :: pattern) text ↔
    ∃ piece rest, Takes c piece ∧ Splits pattern rest ∧ text = piece ++ rest := by
  constructor
  · rintro ⟨_, _ | ⟨htakes, hrest⟩, rfl⟩
    exact ⟨_, _, htakes, ⟨_, hrest, rfl⟩, List.flatten_cons⟩
  · rintro ⟨piece, _, htakes, ⟨pieces, hrest, rfl⟩, rfl⟩
    exact ⟨piece :: pieces, .cons htakes hrest, List.flatten_cons⟩

theorem splits_append : Splits (first ++ last) text ↔
    ∃ before after, Splits first before ∧ Splits last after ∧ text = before ++ after := by
  induction first generalizing text with
  | nil => simp [splits_nil]
  | cons c first ih =>
    rw [List.cons_append, splits_cons]
    simp only [ih, splits_cons]
    constructor
    · rintro ⟨piece, _, htakes, ⟨before, after, hfirst, hlast, rfl⟩, rfl⟩
      exact ⟨piece ++ before, after, ⟨piece, before, htakes, hfirst, rfl⟩, hlast,
        (List.append_assoc ..).symm⟩
    · rintro ⟨_, after, ⟨piece, before, htakes, hfirst, rfl⟩, hlast, rfl⟩
      exact ⟨piece, _, htakes, ⟨before, after, hfirst, hlast, rfl⟩, List.append_assoc ..⟩

theorem splits_run : Splits ['%'] text :=
  ⟨[text], .cons (.anyRun text) .nil, by simp⟩

/-- A pattern between two runs is found anywhere. -/
theorem splits_anywhere_iff : Splits ('%' :: pattern ++ ['%']) text ↔
    ∃ part, part <:+: text ∧ Splits pattern part := by
  rw [List.cons_append, splits_cons]
  simp only [splits_append]
  constructor
  · rintro ⟨piece, _, _, ⟨part, after, hpart, _, rfl⟩, rfl⟩
    exact ⟨part, ⟨piece, after, List.append_assoc ..⟩, hpart⟩
  · rintro ⟨part, ⟨before, after, rfl⟩, hpart⟩
    exact ⟨before, _, .anyRun before, ⟨part, after, hpart, splits_run, rfl⟩, List.append_assoc ..⟩

/-! The expression that is searched for -/

theorem takes_itemOf_iff {before after : List Char} :
    (itemOf c).Takes flags before piece after ↔ Takes c piece := by
  rw [itemOf]
  split
  · rename_i hrun
    obtain rfl := eq_of_beq hrun
    exact iff_of_true (.many fun _ _ => rfl) (.anyRun piece)
  · rename_i hrun
    split
    · rename_i hone
      obtain rfl := eq_of_beq hone
      rw [takes_one_iff]
      constructor
      · rintro (_ | _ | _ | _)
        exact ⟨_, rfl⟩
      · rintro ⟨x, rfl⟩
        exact .one rfl
    · rename_i hone
      rw [takes_letter_iff (by simpa using hrun) (by simpa using hone)]
      constructor
      · rintro (_ | _ | halike | _)
        exact ⟨_, rfl, halike⟩
      · rintro ⟨x, rfl, halike⟩
        exact .one halike

/-- The items of a pattern take what its characters stand for, up to the end of the text. -/
theorem matchesFrom_map_itemOf_iff {before : List Char} :
    Regex.MatchesFrom flags (pattern.map itemOf ++ [.finish]) before text ↔ Splits pattern text := by
  induction pattern generalizing before text with
  | nil =>
    rw [List.map_nil, List.nil_append, Regex.matchesFrom_finish, splits_nil]
    exact and_iff_left ⟨[], text, rfl, .nil⟩
  | cons c pattern ih =>
    rw [List.map_cons, List.cons_append, Regex.matchesFrom_cons, splits_cons]
    constructor
    · rintro ⟨piece, rest, rfl, htakes, hrest⟩
      exact ⟨piece, rest, takes_itemOf_iff.mp htakes, ih.mp hrest, rfl⟩
    · rintro ⟨piece, rest, htakes, hrest, rfl⟩
      exact ⟨piece, rest, rfl, takes_itemOf_iff.mpr htakes, ih.mpr hrest⟩

/-- Between its two ends the expression can only be found in the text as a whole. -/
theorem found_regex_iff : Regex.Found flags (.start :: pattern.map itemOf ++ [.finish]) text ↔
    Splits pattern text := by
  rw [← @matchesFrom_map_itemOf_iff _ _ []]
  constructor
  · rintro ⟨before, part, after, rfl, hmatches⟩
    have hfrom : Regex.MatchesFrom flags (.start :: (pattern.map itemOf ++ [.finish])) before
        (part ++ after) := ⟨part, after, rfl, hmatches⟩
    obtain ⟨rfl, hrest⟩ := Regex.matchesFrom_start.mp hfrom
    simpa using hrest
  · intro h
    obtain ⟨part, after, rfl, hmatches⟩ := Regex.matchesFrom_start.mpr ⟨rfl, h⟩
    exact ⟨[], part, after, rfl, hmatches⟩

theorem isMatch_iff_splits {pattern text : String} :
    isMatch pattern text ↔ Splits pattern.toList text.toList := by
  rw [isMatch, regex?_eq, Option.any_some, Regex.isFoundIn_iff, found_regex_iff]

theorem toList_anywhere (needle : String) :
    (anywhere needle).toList = '%' :: needle.toList ++ ['%'] := by
  simp [anywhere]

theorem isMatch_anywhere_iff {needle text : String} : isMatch (anywhere needle) text ↔
    ∃ part : String, part.toList <:+: text.toList ∧ isMatch needle part := by
  simp only [isMatch_iff_splits, toList_anywhere, splits_anywhere_iff]
  constructor
  · rintro ⟨part, hpart, hsplits⟩
    exact ⟨String.ofList part, by simpa using hpart, by simpa using hsplits⟩
  · rintro ⟨part, hpart, hsplits⟩
    exact ⟨part.toList, hpart, hsplits⟩

/-! A pattern with less in it takes less room -/

theorem fits_of_sublist {part whole : String} (h : part.toList.Sublist whole.toList)
    (hfits : fits whole) : fits part := by
  have hroom : ∀ side : Size → Nat, room side part.toList ≤ room side whole.toList := fun side =>
    (h.map _).sum_le_sum fun _ _ => Nat.zero_le _
  have hforward := hroom Size.forward
  have hbackward := hroom Size.backward
  rw [fits_iff] at hfits ⊢
  omega

theorem checked_ok {pattern compiled : String} (h : checked pattern = .ok compiled) :
    fits pattern ∧ compiled = pattern := by
  rw [checked] at h
  split at h
  · rename_i hfits
    exact ⟨hfits, (Except.ok.inj h).symm⟩
  · cases h

/-- A pattern that is not too large matches the texts that its expression is found in, which are those that
fall into its pieces; and one that may be anywhere matches the texts with a part that the pattern matches
by itself. -/
theorem checked_matches (pattern compiled text : String) :
    (checked pattern = .ok compiled →
      (∃ r, Regex.parse (expression pattern) = some r ∧
        (isMatch compiled text ↔ r.Found flags text.toList)) ∧
      (isMatch compiled text ↔ Splits pattern.toList text.toList)) ∧
      (checked (anywhere pattern) = .ok compiled → (isMatch compiled text ↔
        ∃ inner part : String, checked pattern = .ok inner ∧ part.toList <:+: text.toList ∧
          isMatch inner part)) := by
  constructor
  · intro h
    obtain ⟨_, rfl⟩ := checked_ok h
    exact ⟨⟨_, regex?_eq _, isMatch_iff_splits.trans found_regex_iff.symm⟩, isMatch_iff_splits⟩
  · intro h
    obtain ⟨hfits, rfl⟩ := checked_ok h
    have hinner : checked pattern = .ok pattern := by
      refine if_pos (fits_of_sublist ?_ hfits)
      rw [toList_anywhere]
      exact (List.sublist_cons_self _ _).trans (List.sublist_append_left _ _)
    rw [isMatch_anywhere_iff]
    constructor
    · rintro ⟨part, hpart, hmatch⟩
      exact ⟨pattern, part, hinner, hpart, hmatch⟩
    · rintro ⟨inner, part, hchecked, hpart, hmatch⟩
      obtain ⟨_, rfl⟩ := checked_ok hchecked
      exact ⟨part, hpart, hmatch⟩

theorem checked_matches_dots : expression "d.g_%" = "^d\\.g..*$" ∧
    checked "d.g_%" = .ok "d.g_%" ∧ checked (anywhere "d.g") = .ok "%d.g%" ∧
    ((∃ r, Regex.parse (expression "d.g_%") = some r ∧
      (isMatch "d.g_%" "D.GS\n" ↔ r.Found flags "D.GS\n".toList)) ∧
      (isMatch "d.g_%" "D.GS\n" ↔ Splits "d.g_%".toList "D.GS\n".toList)) ∧
    (isMatch "%d.g%" "A d.g" ↔ ∃ inner part : String, checked "d.g" = .ok inner ∧
      part.toList <:+: "A d.g".toList ∧ isMatch inner part) ∧
    isMatch "d.g_%" "D.GS\n" ∧ ¬ isMatch "d.g_%" "DOGS\n" ∧
    isMatch "%d.g%" "A d.g" ∧ ¬ isMatch "d.g_%" "A d.g" := by
  have hwhole : checked "d.g_%" = .ok "d.g_%" :=
    if_pos (fits_of_ascii (by decide +kernel) (by decide +kernel))
  have hpart : checked (anywhere "d.g") = .ok "%d.g%" :=
    if_pos (fits_of_ascii (by decide +kernel) (by decide +kernel))
  exact ⟨by decide +kernel, hwhole, hpart, (checked_matches "d.g_%" "d.g_%" "D.GS\n").1 hwhole,
    (checked_matches "d.g" "%d.g%" "A d.g").2 hpart, by decide +kernel, by decide +kernel,
    by decide +kernel, by decide +kernel⟩

end CardBinder.Like
