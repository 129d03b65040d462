import CardBinder.Holder.Basic
import CardBinder.Proofs.Tally

/-! Staging copies in a holder, and what holds of the staged copies whatever was staged. -/

namespace CardBinder

instance : Std.TransOrd NamedPrinting :=
  inferInstanceAs (Std.TransCmp
    (compareLex (compareOn NamedPrinting.name) (compareOn NamedPrinting.expansion)))

instance : Std.LawfulEqOrd NamedPrinting where
  eq_of_compare {a b} h := by
    obtain ⟨hname, hexpansion⟩ := eq_of_compareLex h
    cases a
    cases b
    exact congrArg₂ NamedPrinting.mk hname hexpansion

namespace Holder

/-- Copies are staged, or taken back. -/
inductive Staging where
  | add (count : Nat) (name : String) (expansion : Option String)
  | remove (count : Nat) (name : String) (expansion : Option String)

/-- A holder after copies were staged or taken back; a refusal leaves it as it was. -/
def stage (h : Holder) (step : Staging) : Holder :=
  let staged := match step with
    | .add count name expansion => h.add count name expansion
    | .remove count name expansion => h.remove count name expansion
  match staged with
  | .ok h => h
  | .error _ => h

variable {h : Holder}

/-- Staging leaves all but the entries alone. -/
theorem stage_eq (h : Holder) (step : Staging) :
    h.stage step = { h with entries := (h.stage step).entries } := by
  cases step <;> simp only [stage, add, remove] <;> split_ifs <;> rfl

theorem proper_stage (hp : h.entries.Proper) (step : Staging) : (h.stage step).entries.Proper := by
  cases step with
  | add count name expansion =>
    simp only [stage, add]
    split_ifs with hzero hmany
    · exact hp
    · exact hp
    · exact hp.add _ (Nat.pos_of_ne_zero hzero)
  | remove count name expansion =>
    simp only [stage, remove]
    split_ifs
    · exact hp
    · exact hp
    · exact hp.take _ count

theorem foldl_stage_eq (h : Holder) (steps : List Staging) :
    steps.foldl stage h = { h with entries := (steps.foldl stage h).entries } := by
  induction steps generalizing h with
  | nil => rfl
  | cons step steps ih =>
    rw [List.foldl_cons, ih, stage_eq]

/-- Each entry is there once, and for some copies. -/
theorem proper_foldl_stage (hp : h.entries.Proper) (steps : List Staging) :
    (steps.foldl stage h).entries.Proper := by
  induction steps generalizing h with
  | nil => exact hp
  | cons step steps ih => exact ih (proper_stage hp step)

/-! Copies that are staged one after another -/

/-- The entries are in order, and none is over what a count can hold. -/
structure Within (h : Holder) : Prop where
  proper : h.entries.Proper
  fits : ∀ key, h.entries.count key ≤ Text.maxCount

theorem within_empty : empty.Within := ⟨Tally.proper_empty, fun _ => Nat.zero_le _⟩

/-- What is in a holder after more copies were staged, `size` of them. -/
structure Stages (h : Holder) (more : NamedPrinting → Nat) (size : Nat) (h' : Holder) : Prop where
  within : h'.Within
  counts : ∀ key, h'.entries.count key = h.entries.count key + more key
  total : h'.size = h.size + size

variable {h' h'' : Holder} {more more' : NamedPrinting → Nat} {m n : Nat}

theorem Within.stages (hw : h.Within) : Stages h (fun _ => 0) 0 h := ⟨hw, fun _ => rfl, rfl⟩

theorem Stages.trans (hs : Stages h more m h') (hs' : Stages h' more' n h'') :
    Stages h (fun key => more key + more' key) (m + n) h'' where
  within := hs'.within
  counts key := by rw [hs'.counts, hs.counts, Nat.add_assoc]
  total := by rw [hs'.total, hs.total, Nat.add_assoc]

/-- Either the count still fits, or the copies are refused. -/
theorem Within.add_cases (hw : h.Within) (n : Nat) (name : String) (expansion : Option String) :
    (∃ h', h.add n name expansion = .ok h' ∧ h' = { h with entries := h'.entries } ∧
      Stages h (fun key => if (⟨name, expansion⟩ : NamedPrinting) == key then n else 0) n h') ∨
    Text.maxCount < h.entries.count ⟨name, expansion⟩ + n ∧
      ∃ reason, h.add n name expansion = .error (.invalidRequest reason) := by
  rw [add]
  split
  · rename_i hzero
    subst hzero
    exact .inl ⟨h, rfl, rfl, hw, fun key => by rw [ite_self, Nat.add_zero], rfl⟩
  rename_i hne
  split
  · rename_i hmany
    exact .inr ⟨hmany, _, rfl⟩
  · rename_i hfew
    have hpos : 0 < n := Nat.pos_of_ne_zero hne
    have hcounts := hw.proper.count_add n ⟨name, expansion⟩
    refine .inl ⟨_, rfl, rfl, ⟨hw.proper.add _ hpos, fun key => ?_⟩, hcounts,
      Tally.total_add h.entries _ n⟩
    rw [hcounts]
    split
    · rename_i heq
      rw [← beq_iff_eq.mp heq]
      exact Nat.le_of_not_gt hfew
    · exact hw.fits key

section Fold
variable {β : Type} {step : Holder → β → Outcome Holder} {more : β → NamedPrinting → Nat}
  {size : β → Nat} {bad : β → Prop}

/-- Something is refused, or one entry gets more copies than a count can hold. -/
def Overfills (h : Holder) (bad : β → Prop) (more : β → NamedPrinting → Nat) (xs : List β) : Prop :=
  (∃ x ∈ xs, bad x) ∨ ∃ key, Text.maxCount < h.entries.count key + countSum (xs.map (more · key))

theorem Overfills.cons {x : β} {xs : List β} (ho : h'.Overfills bad more xs)
    (hs : Stages h (more x) n h') : h.Overfills bad more (x :: xs) := by
  rcases ho with ⟨y, hy, hbad⟩ | ⟨key, hkey⟩
  · exact .inl ⟨y, List.mem_cons_of_mem x hy, hbad⟩
  · refine .inr ⟨key, ?_⟩
    rwa [hs.counts, Nat.add_assoc] at hkey

/-- Things are staged one by one, until one is refused or too many. -/
theorem Within.foldlM_cases (hstep : ∀ h x, h.Within →
      (¬ bad x ∧ ∃ h', step h x = .ok h' ∧ Stages h (more x) (size x) h') ∨
      (bad x ∨ ∃ key, Text.maxCount < h.entries.count key + more x key) ∧
        ∃ reason, step h x = .error (.invalidRequest reason))
    (hw : h.Within) (xs : List β) :
    ((∀ x ∈ xs, ¬ bad x) ∧ ∃ h', xs.foldlM step h = .ok h' ∧
      Stages h (fun key => countSum (xs.map (more · key))) (countSum (xs.map size)) h') ∨
    h.Overfills bad more xs ∧ ∃ reason, xs.foldlM step h = .error (.invalidRequest reason) := by
  induction xs generalizing h with
  | nil => exact .inl ⟨by simp, h, rfl, hw.stages⟩
  | cons x xs ih =>
    rw [List.foldlM_cons]
    rcases hstep h x hw with ⟨hgood, h', hok, hstages⟩ | ⟨hover, reason, herror⟩
    · rw [hok]
      rcases ih hstages.within with ⟨hrest, h'', hok', hstages'⟩ | ⟨hover, reason, herror⟩
      · exact .inl ⟨List.forall_mem_cons.mpr ⟨hgood, hrest⟩, h'', hok', hstages.trans hstages'⟩
      · exact .inr ⟨hover.cons hstages, reason, herror⟩
    · rw [herror]
      refine .inr ⟨?_, reason, rfl⟩
      rcases hover with hbad | ⟨key, hkey⟩
      · exact .inl ⟨x, List.mem_cons_self, hbad⟩
      · have hmore : more x key ≤ countSum ((x :: xs).map (more · key)) := Nat.le_add_right _ _
        exact .inr ⟨key, by omega⟩

end Fold

end Holder
end CardBinder
