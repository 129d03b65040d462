import CardBinder.Regex
import Mathlib.Data.List.Infix

/-! The search finds a part exactly when the items take its pieces, by what each item says of a text. -/

namespace CardBinder.Regex

/-- What an item takes of a text, between what stands before and what comes after. -/
inductive Item.Takes (flags : Flags) : Item → (before piece after : List Char) → Prop
  | start {after : List Char} : Takes flags .start [] [] after
  | finish {before : List Char} : Takes flags .finish before [] []
  | one {k : Class} {x : Char} {before after : List Char} (h : k.takes flags x) :
      Takes flags (.one k) before [x] after
  | many {k : Class} {before piece after : List Char} (h : ∀ x ∈ piece, k.takes flags x) :
      Takes flags (.many k) before piece after

/-- The items take a part of a text, piece after piece. -/
inductive Matches (flags : Flags) : Regex → (before part after : List Char) → Prop
  | nil {before after : List Char} : Matches flags [] before [] after
  | cons {item : Item} {r : Regex} {before piece part after : List Char}
      (hitem : item.Takes flags before piece (part ++ after))
      (hrest : Matches flags r (before ++ piece) part after) :
      Matches flags (item :: r) before (piece ++ part) after

/-- Some part of the text matches. -/
def Found (flags : Flags) (r : Regex) (text : List Char) : Prop :=
  ∃ before part after, text = before ++ part ++ after ∧ r.Matches flags before part after

variable {flags : Flags} {r : Regex} {item : Item} {k : Class} {first b : Bool} {c : Char}
  {text before part after : List Char} {rest : List Bool}

theorem matches_cons : Matches flags (item :: r) before part after ↔ ∃ piece rest,
    part = piece ++ rest ∧ item.Takes flags before piece (rest ++ after) ∧
      Matches flags r (before ++ piece) rest after := by
  constructor
  · rintro (_ | ⟨hitem, hrest⟩)
    exact ⟨_, _, rfl, hitem, hrest⟩
  · rintro ⟨piece, rest, rfl, hitem, hrest⟩
    exact .cons hitem hrest

/-! The rows of the search -/

/-- Do the items match from the first place of the text? -/
def matchesAt (flags : Flags) (first : Bool) (r : Regex) (text : List Char) : Bool :=
  (row flags first r text).headD false

theorem length_step (flags : Flags) (first : Bool) (item : Item) (h : rest.length = text.length + 1) :
    (step flags first item text rest).length = text.length + 1 := by
  cases item with
  | start => simp [step, h]
  | finish => simp [step, places, h]
  | one k => simp [step, places, h]
  | many k =>
    have hfold : ∀ ps : List (Option Char × Bool), (ps.foldr (fun place row =>
        (place.2 || (place.1.any (k.takes flags) && row.headD false)) :: row) []).length = ps.length := by
      intro ps
      induction ps with
      | nil => rfl
      | cons p ps ih => exact congrArg Nat.succ ih
    rw [step, hfold, List.length_zip, places, List.length_append, List.length_map, h]
    exact Nat.min_self _

theorem length_row (flags : Flags) (first : Bool) (r : Regex) (text : List Char) :
    (row flags first r text).length = text.length + 1 := by
  induction r with
  | nil => simp [row, places]
  | cons item r ih => exact length_step flags first item ih

theorem row_ne_nil (flags : Flags) (first : Bool) (r : Regex) (text : List Char) :
    row flags first r text ≠ [] := by
  rw [ne_eq, ← List.length_eq_zero_iff, length_row]
  exact Nat.succ_ne_zero _

/-- Reading one character less leaves out the first place, and nothing else is a first place. -/
theorem tail_step (item : Item) (h : rest ≠ []) :
    (step flags first item (c :: text) (b :: rest)).tail = step flags false item text rest := by
  obtain ⟨b', rest, rfl⟩ := List.exists_cons_of_ne_nil h
  cases item <;> rfl

theorem tail_row (flags : Flags) (first : Bool) (r : Regex) (c : Char) (text : List Char) :
    (row flags first r (c :: text)).tail = row flags false r text := by
  induction r with
  | nil => rfl
  | cons item r ih =>
    obtain ⟨b, rest, hrow⟩ := List.exists_cons_of_ne_nil (row_ne_nil flags first r (c :: text))
    rw [hrow, List.tail_cons] at ih
    change (step flags first item (c :: text) (row flags first r (c :: text))).tail =
      step flags false item text (row flags false r text)
    rw [hrow, ih, tail_step item (row_ne_nil flags false r text)]

theorem row_cons (flags : Flags) (first : Bool) (r : Regex) (c : Char) (text : List Char) :
    row flags first r (c :: text) =
      matchesAt flags first r (c :: text) :: row flags false r text := by
  obtain ⟨b, rest, hrow⟩ := List.exists_cons_of_ne_nil (row_ne_nil flags first r (c :: text))
  rw [← tail_row flags first r c, matchesAt, hrow]
  rfl

theorem row_nil (flags : Flags) (first : Bool) (r : Regex) :
    row flags first r [] = [matchesAt flags first r []] := by
  obtain ⟨b, hrow⟩ := List.length_eq_one_iff.mp (length_row flags first r [])
  rw [matchesAt, hrow]
  rfl

theorem row_eq_cons (flags : Flags) (first : Bool) (r : Regex) (text : List Char) :
    ∃ rest, row flags first r text = matchesAt flags first r text :: rest := by
  cases text with
  | nil => exact ⟨[], row_nil flags first r⟩
  | cons c text => exact ⟨_, row_cons flags first r c text⟩

theorem matchesAt_nil : matchesAt flags first [] text = true := by
  cases text <;> rfl

theorem matchesAt_start :
    matchesAt flags first (.start :: r) text = (first && matchesAt flags first r text) := rfl

theorem matchesAt_finish :
    matchesAt flags first (.finish :: r) text = (text.isEmpty && matchesAt flags first r text) := by
  obtain ⟨rest, hrest⟩ := row_eq_cons flags first r text
  change (step flags first .finish text (row flags first r text)).headD false = _
  rw [hrest]
  cases text <;> rfl

theorem matchesAt_one_nil : matchesAt flags first (.one k :: r) [] = false := by
  change (step flags first (.one k) [] (row flags first r [])).headD false = _
  rw [row_nil]
  rfl

theorem matchesAt_one_cons : matchesAt flags first (.one k :: r) (c :: text) =
    (k.takes flags c && matchesAt flags false r text) := by
  obtain ⟨rest, hrest⟩ := row_eq_cons flags false r text
  change (step flags first (.one k) (c :: text) (row flags first r (c :: text))).headD false = _
  rw [row_cons, hrest]
  rfl

theorem matchesAt_many_nil :
    matchesAt flags first (.many k :: r) [] = matchesAt flags first r [] := by
  change (step flags first (.many k) [] (row flags first r [])).headD false = _
  rw [row_nil]
  exact Bool.or_false _

theorem matchesAt_many_cons : matchesAt flags first (.many k :: r) (c :: text) =
    (matchesAt flags first r (c :: text) ||
      (k.takes flags c && matchesAt flags false (.many k :: r) text)) := by
  change (step flags first (.many k) (c :: text) (row flags first r (c :: text))).headD false = _
  rw [row_cons]
  rfl

/-! The search and the pieces -/

/-- The items match from a place of the text. -/
def MatchesFrom (flags : Flags) (r : Regex) (before text : List Char) : Prop :=
  ∃ part after, text = part ++ after ∧ r.Matches flags before part after

theorem matchesFrom_cons : MatchesFrom flags (item :: r) before text ↔ ∃ piece rest,
    text = piece ++ rest ∧ item.Takes flags before piece rest ∧
      MatchesFrom flags r (before ++ piece) rest := by
  constructor
  · rintro ⟨part, after, rfl, hmatches⟩
    obtain ⟨piece, rest, rfl, hitem, hrest⟩ := matches_cons.mp hmatches
    exact ⟨piece, rest ++ after, List.append_assoc .., hitem, rest, after, rfl, hrest⟩
  · rintro ⟨piece, _, rfl, hitem, part, after, rfl, hrest⟩
    exact ⟨piece ++ part, after, (List.append_assoc ..).symm, .cons hitem hrest⟩

theorem matchesFrom_start : MatchesFrom flags (.start :: r) before text ↔
    before = [] ∧ MatchesFrom flags r before text := by
  rw [matchesFrom_cons]
  constructor
  · rintro ⟨_, _, rfl, ⟨_⟩, hrest⟩
    exact ⟨rfl, hrest⟩
  · rintro ⟨rfl, hrest⟩
    exact ⟨[], text, rfl, .start, hrest⟩

theorem matchesFrom_finish : MatchesFrom flags (.finish :: r) before text ↔
    text = [] ∧ MatchesFrom flags r before text := by
  rw [matchesFrom_cons]
  constructor
  · rintro ⟨_, _, rfl, ⟨_⟩, hrest⟩
    rw [List.append_nil] at hrest
    exact ⟨rfl, hrest⟩
  · rintro ⟨rfl, hrest⟩
    exact ⟨[], [], rfl, .finish, by rwa [List.append_nil]⟩

theorem matchesFrom_one : MatchesFrom flags (.one k :: r) before text ↔
    ∃ x rest, text = x :: rest ∧ k.takes flags x ∧ MatchesFrom flags r (before ++ [x]) rest := by
  rw [matchesFrom_cons]
  constructor
  · rintro ⟨_, rest, rfl, _ | _ | hx | _, hrest⟩
    exact ⟨_, rest, rfl, hx, hrest⟩
  · rintro ⟨x, rest, rfl, hx, hrest⟩
    exact ⟨[x], rest, rfl, .one hx, hrest⟩

/-- A repeated item goes on, or takes one character more. -/
theorem matchesFrom_many : MatchesFrom flags (.many k :: r) before text ↔
    MatchesFrom flags r before text ∨ ∃ x rest, text = x :: rest ∧ k.takes flags x ∧
      MatchesFrom flags (.many k :: r) (before ++ [x]) rest := by
  simp only [matchesFrom_cons]
  constructor
  · rintro ⟨piece, rest, rfl, _ | _ | _ | hpiece, hrest⟩
    cases piece with
    | nil => exact .inl (by rwa [List.append_nil] at hrest)
    | cons x piece =>
      obtain ⟨hx, hpiece⟩ := List.forall_mem_cons.mp hpiece
      refine .inr ⟨x, piece ++ rest, rfl, hx, piece, rest, rfl, .many hpiece, ?_⟩
      rwa [List.append_assoc]
  · rintro (hrest | ⟨x, _, rfl, hx, piece, rest, rfl, _ | _ | _ | hpiece, hrest⟩)
    · exact ⟨[], text, rfl, .many (by simp), by rwa [List.append_nil]⟩
    · refine ⟨x :: piece, rest, rfl, .many (List.forall_mem_cons.mpr ⟨hx, hpiece⟩), ?_⟩
      rwa [List.append_assoc] at hrest

theorem isEmpty_append_singleton (before : List Char) (x : Char) : (before ++ [x]).isEmpty = false := by
  simp

/-- A row says what the pieces say. By induction on the items; for a repeated one also on the text. -/
theorem matchesAt_iff : matchesAt flags before.isEmpty r text ↔ MatchesFrom flags r before text := by
  induction r generalizing before text with
  | nil =>
    rw [matchesAt_nil]
    exact iff_of_true rfl ⟨[], text, rfl, .nil⟩
  | cons item r ih =>
    have hnext : ∀ (before : List Char) (x : Char) (text : List Char),
        matchesAt flags false r text ↔ MatchesFrom flags r (before ++ [x]) text := by
      intro before x text
      rw [← ih, isEmpty_append_singleton]
    cases item with
    | start => rw [matchesAt_start, matchesFrom_start, Bool.and_eq_true, ih, List.isEmpty_iff]
    | finish => rw [matchesAt_finish, matchesFrom_finish, Bool.and_eq_true, ih, List.isEmpty_iff]
    | one k =>
      rw [matchesFrom_one]
      cases text with
      | nil => simp [matchesAt_one_nil]
      | cons c text => simp [matchesAt_one_cons, hnext before c]
    | many k =>
      induction text generalizing before with
      | nil => rw [matchesAt_many_nil, matchesFrom_many, ih]; simp
      | cons c text ihtext =>
        have hmore : matchesAt flags false (.many k :: r) text ↔
            MatchesFrom flags (.many k :: r) (before ++ [c]) text := by
          have hrest := @ihtext (before ++ [c])
          rwa [isEmpty_append_singleton] at hrest
        rw [matchesAt_many_cons, matchesFrom_many, Bool.or_eq_true, Bool.and_eq_true, ih, hmore]
        simp

theorem mem_row_iff : true ∈ row flags before.isEmpty r text ↔
    ∃ skipped rest, text = skipped ++ rest ∧ MatchesFrom flags r (before ++ skipped) rest := by
  induction text generalizing before with
  | nil => simp [row_nil, ← matchesAt_iff]
  | cons c text ih =>
    have hlater : true ∈ row flags false r text ↔ ∃ skipped rest, text = skipped ++ rest ∧
        MatchesFrom flags r (before ++ [c] ++ skipped) rest := by
      rw [← ih, isEmpty_append_singleton]
    rw [row_cons, List.mem_cons, hlater, eq_comm, matchesAt_iff]
    constructor
    · rintro (h | ⟨skipped, rest, rfl, h⟩)
      · exact ⟨[], c :: text, rfl, by rwa [List.append_nil]⟩
      · exact ⟨c :: skipped, rest, rfl, by rwa [List.append_assoc] at h⟩
    · rintro ⟨_ | ⟨x, skipped⟩, rest, htext, h⟩
      · rw [List.append_nil] at h
        exact .inl (htext ▸ h)
      · obtain ⟨rfl, rfl⟩ := List.cons.inj htext
        exact .inr ⟨skipped, rest, rfl, by rwa [List.append_assoc]⟩

/-- The search finds what the items say. -/
theorem isFoundIn_iff : r.isFoundIn flags text ↔ r.Found flags text := by
  rw [isFoundIn, List.contains_iff_mem]
  refine (@mem_row_iff flags r text []).trans ?_
  constructor
  · rintro ⟨before, _, rfl, part, after, rfl, h⟩
    exact ⟨before, part, after, (List.append_assoc ..).symm, h⟩
  · rintro ⟨before, part, after, rfl, h⟩
    exact ⟨before, part ++ after, List.append_assoc .., part, after, rfl, h⟩

end CardBinder.Regex
