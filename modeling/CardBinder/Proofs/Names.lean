import CardBinder.Names
import Mathlib.Data.List.DropRight

/-! Trimming a second time changes nothing, so a stored name is filed under the key it was typed under. -/

namespace CardBinder

namespace Text

theorem trimEndChars_eq_rdropWhile (cs : List Char) :
    trimEndChars cs = cs.rdropWhile isBlank := rfl

theorem trimEndChars_append_cons {c : Char} (hc : isBlank c = false) (cs rest : List Char) :
    trimEndChars (cs ++ c :: rest) = cs ++ c :: trimEndChars rest := by
  induction rest using List.reverseRecOn with
  | nil => exact List.rdropWhile_concat_neg _ _ _ (by simp [hc])
  | append_singleton rest last ih =>
    rw [← List.cons_append, ← List.append_assoc, trimEndChars_eq_rdropWhile,
      trimEndChars_eq_rdropWhile]
    by_cases hlast : isBlank last
    · rw [List.rdropWhile_concat_pos _ _ _ hlast, List.rdropWhile_concat_pos _ _ _ hlast]
      exact ih
    · rw [List.rdropWhile_concat_neg _ _ _ hlast, List.rdropWhile_concat_neg _ _ _ hlast]
      simp

/-- The start and the end can be trimmed in either order. -/
theorem trimStartChars_trimEndChars (cs : List Char) :
    trimStartChars (trimEndChars cs) = trimChars cs := by
  induction cs with
  | nil => rfl
  | cons c cs ih =>
    by_cases hc : isBlank c
    · have hdropped : trimChars (c :: cs) = trimChars cs := by
        rw [trimChars, trimStartChars, List.dropWhile_cons_of_pos hc]
        rfl
      rw [hdropped, ← ih, trimEndChars, List.reverse_cons, List.dropWhile_append, trimEndChars]
      split
      · rename_i hblank
        rw [List.isEmpty_iff.mp hblank, List.dropWhile_cons_of_pos hc]
        rfl
      · rw [List.reverse_append]
        exact List.dropWhile_cons_of_pos hc
    · have hkept := trimEndChars_append_cons (by simpa using hc) [] cs
      rw [List.nil_append, List.nil_append] at hkept
      rw [trimChars, trimStartChars, trimStartChars, List.dropWhile_cons_of_neg hc, hkept,
        List.dropWhile_cons_of_neg hc]

theorem trimChars_trimChars (cs : List Char) : trimChars (trimChars cs) = trimChars cs := by
  have hstart : trimStartChars (trimStartChars cs) = trimStartChars cs :=
    List.dropWhile_idempotent isBlank cs
  have hstop : trimEndChars (trimEndChars (trimStartChars cs)) = trimEndChars (trimStartChars cs) :=
    List.rdropWhile_idempotent isBlank (trimStartChars cs)
  rw [trimChars, trimChars, trimStartChars_trimEndChars, trimChars, hstart, hstop]

@[simp] theorem trim_trim (s : String) : trim (trim s) = trim s := by
  simp [trim, trimChars_trimChars]

theorem trimChars_isInfix (cs : List Char) : trimChars cs <:+: cs :=
  (List.rdropWhile_prefix isBlank _).isInfix.trans (List.dropWhile_suffix isBlank).isInfix

theorem length_trim_le (s : String) : (trim s).toList.length ≤ s.toList.length := by
  rw [trim, String.toList_ofList]
  exact (trimChars_isInfix s.toList).length_le

/-! Text without blanks at its ends -/

/-- Text that has something at both ends that is not blank. -/
structure Bare (cs : List Char) : Prop where
  nonempty : cs ≠ []
  start : cs.dropWhile isBlank = cs
  stop : cs.rdropWhile isBlank = cs

variable {first last : List Char}

theorem Bare.trim (h : Bare first) : trimChars first = first := by
  rw [trimChars, trimStartChars, h.start, trimEndChars_eq_rdropWhile, h.stop]

theorem bare_of_trim (h : trimChars first = first) (hne : first ≠ []) : Bare first := by
  have hstart : first.dropWhile isBlank = first := by
    refine (List.dropWhile_suffix _).eq_of_length_le ?_
    have hlength := congrArg List.length h
    have hle := (List.rdropWhile_prefix isBlank (first.dropWhile isBlank)).length_le
    rw [trimChars, trimStartChars, trimEndChars_eq_rdropWhile] at hlength
    omega
  refine ⟨hne, hstart, ?_⟩
  rwa [trimChars, trimStartChars, hstart, trimEndChars_eq_rdropWhile] at h

/-- Only the ends matter. -/
theorem Bare.append (hf : Bare first) (hl : Bare last) (between : List Char) :
    Bare (first ++ between ++ last) := by
  refine ⟨by simp [hf.nonempty], ?_, ?_⟩
  · rw [List.append_assoc, List.dropWhile_append, hf.start, if_neg (by simp [hf.nonempty])]
  · rw [List.rdropWhile_eq_self_iff]
    intro hne
    rw [List.getLast_append_of_right_ne_nil _ _ hl.nonempty]
    exact List.rdropWhile_eq_self_iff.mp hl.stop hl.nonempty

theorem bare_of_forall (hne : first ≠ []) (h : ∀ c ∈ first, isBlank c = false) : Bare first := by
  refine ⟨hne, ?_, ?_⟩
  · obtain ⟨c, rest, rfl⟩ := List.exists_cons_of_ne_nil hne
    exact List.dropWhile_cons_of_neg (by simp [h c List.mem_cons_self])
  · exact List.rdropWhile_eq_self_iff.mpr fun hne => by simp [h _ (List.getLast_mem hne)]

theorem Bare.isBlank_last {c : Char} (h : Bare (first ++ [c])) : isBlank c = false := by
  have hlast := List.rdropWhile_eq_self_iff.mp h.stop h.nonempty
  rw [List.getLast_append_singleton] at hlast
  simpa using hlast

theorem Bare.trim_concat (h : Bare first) {c : Char} (hc : isBlank c = true) :
    trimChars (first ++ [c]) = first := by
  have hstart : (first ++ [c]).dropWhile isBlank = first ++ [c] := by
    rw [List.dropWhile_append, h.start, if_neg (by simp [h.nonempty])]
  rw [trimChars, trimStartChars, hstart, trimEndChars_eq_rdropWhile,
    List.rdropWhile_concat_pos _ _ _ hc, h.stop]

theorem head?_trimChars {c : Char} (hc : isBlank c = false) (cs : List Char) :
    (trimChars (c :: cs)).head? = some c := by
  have hstart : (c :: cs).dropWhile isBlank = c :: cs := List.dropWhile_cons_of_neg (by simp [hc])
  rw [trimChars, trimStartChars, hstart, trimEndChars_eq_rdropWhile]
  obtain ⟨rest, hrest⟩ := List.rdropWhile_prefix isBlank (c :: cs)
  cases hkept : (c :: cs).rdropWhile isBlank with
  | nil =>
    have hblank := List.rdropWhile_eq_nil_iff.mp hkept c List.mem_cons_self
    rw [hc] at hblank
    cases hblank
  | cons x kept =>
    rw [hkept] at hrest
    exact congrArg some (List.cons.inj hrest).1

/-! Blanks around a text -/

theorem exists_blanks_trimChars (cs : List Char) : ∃ left right, (∀ c ∈ left, isBlank c) ∧
    (∀ c ∈ right, isBlank c) ∧ cs = left ++ trimChars cs ++ right := by
  refine ⟨cs.takeWhile isBlank, (trimStartChars cs).rtakeWhile isBlank,
    fun c hc => List.mem_takeWhile_imp hc, fun c hc => List.mem_rtakeWhile_imp hc, ?_⟩
  rw [trimChars, trimEndChars_eq_rdropWhile, List.append_assoc, List.rdropWhile_append_rtakeWhile,
    trimStartChars, List.takeWhile_append_dropWhile]

theorem trimStartChars_blanks_append {left : List Char} (h : ∀ c ∈ left, isBlank c) (cs : List Char) :
    trimStartChars (left ++ cs) = trimStartChars cs :=
  List.dropWhile_append_of_pos h

theorem trimEndChars_append_blanks {right : List Char} (h : ∀ c ∈ right, isBlank c) (cs : List Char) :
    trimEndChars (cs ++ right) = trimEndChars cs := by
  have hreverse : ∀ c ∈ right.reverse, isBlank c := fun c hc => h c (List.mem_reverse.mp hc)
  rw [trimEndChars, List.reverse_append, List.dropWhile_append_of_pos hreverse, trimEndChars]

theorem trimChars_blanks {left right : List Char} (hleft : ∀ c ∈ left, isBlank c)
    (hright : ∀ c ∈ right, isBlank c) (cs : List Char) :
    trimChars (left ++ cs ++ right) = trimChars cs := by
  rw [trimChars, List.append_assoc, trimStartChars_blanks_append hleft, trimStartChars,
    List.dropWhile_append, trimChars]
  split
  · rename_i hblank
    have hnil : right.dropWhile isBlank = [] := List.dropWhile_eq_nil_iff.mpr hright
    rw [hnil, trimStartChars, List.isEmpty_iff.mp hblank]
  · exact trimEndChars_append_blanks hright _

/-- Before a character that is not blank, nothing is trimmed at the end. -/
theorem Bare.trimChars_append_cons (h : Bare first) {left : List Char} (hleft : ∀ c ∈ left, isBlank c)
    {c : Char} (hc : isBlank c = false) (between rest : List Char) :
    trimChars (left ++ first ++ between ++ c :: rest) =
      first ++ between ++ c :: trimEndChars rest := by
  have hstart : trimStartChars (first ++ (between ++ c :: rest)) = first ++ (between ++ c :: rest) := by
    rw [trimStartChars, List.dropWhile_append, h.start, if_neg (by simp [h.nonempty])]
  rw [trimChars, List.append_assoc, List.append_assoc, trimStartChars_blanks_append hleft, hstart,
    ← List.append_assoc, trimEndChars_append_cons hc]

end Text

/-! Names that can be typed again -/

/-- A name that is not blank and has no blanks at its ends. -/
structure NeatName (name : String) : Prop where
  nonempty : name ≠ ""
  trimmed : Text.trim name = name

theorem neatName_trim {name : String} (h : Text.trim name ≠ "") : NeatName (Text.trim name) :=
  ⟨h, Text.trim_trim name⟩

theorem NeatName.bare {name : String} (h : NeatName name) : Text.Bare name.toList := by
  refine Text.bare_of_trim ?_ fun hnil => h.nonempty (String.toList_eq_nil_iff.mp hnil)
  have htrimmed := congrArg String.toList h.trimmed
  rwa [Text.trim, String.toList_ofList] at htrimmed

@[simp] theorem canonicalName_trim (name : String) :
    canonicalName (Text.trim name) = canonicalName name := by
  simp [canonicalName]

end CardBinder
