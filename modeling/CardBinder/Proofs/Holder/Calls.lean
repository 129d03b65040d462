import CardBinder.Proofs.Holder.Staging

/-! Calls on a holder one after another: of each entry there is what was added less what was taken back. -/

namespace CardBinder.Holder

/-- How many copies a call asks for. -/
def Staging.count : Staging → Nat
  | .add n _ _ => n
  | .remove n _ _ => n

/-- How many copies of an entry a call adds. -/
def Staging.added (key : NamedPrinting) : Staging → Nat
  | .add n name expansion => if (⟨name, expansion⟩ : NamedPrinting) == key then n else 0
  | .remove _ _ _ => 0

/-- How many copies of an entry a call takes back. -/
def Staging.removed (key : NamedPrinting) : Staging → Nat
  | .add _ _ _ => 0
  | .remove n name expansion => if (⟨name, expansion⟩ : NamedPrinting) == key then n else 0

/-- A call on a holder: its answer, and the holder after it. -/
def call (h : Holder) : Staging → Outcome Unit × Holder
  | .add n name expansion => h.addInPlace n name expansion
  | .remove n name expansion => h.removeInPlace n name expansion

def Refuses (h : Holder) (step : Staging) : Prop :=
  ∃ reason, (h.call step).1 = .error reason

/-- The holder after calls, granted or refused. -/
def called (h : Holder) (steps : List Staging) : Holder :=
  steps.foldl (fun h step => (h.call step).2) h

/-- Those of the calls that are granted. -/
def granted (h : Holder) : List Staging → List Staging
  | [] => []
  | step :: steps =>
    match h.call step with
    | (.ok _, h) => step :: h.granted steps
    | (.error _, h) => h.granted steps

variable {h h' : Holder} {n : Nat} {name : String} {expansion : Option String} {step : Staging}
  {steps : List Staging}

/-! One call -/

/-- An entry that was made for the call is not left behind: a count alone is never too large. -/
theorem Within.addInPlace_eq (hw : h.Within) (hn : n ≤ Text.maxCount) :
    h.addInPlace n name expansion = h.leaving (h.add n name expansion) := by
  by_cases hzero : n = 0
  · rw [addInPlace, add, if_pos hzero, if_pos hzero]
    rfl
  rw [addInPlace, if_neg hzero]
  have hcount : (h.entries.add ⟨name, expansion⟩ 0).count ⟨name, expansion⟩ =
      h.entries.count ⟨name, expansion⟩ := by
    rw [hw.proper.count_add, ite_self, Nat.add_zero]
  by_cases hmany : h.entries.count ⟨name, expansion⟩ + n > Text.maxCount
  · -- what is too many now was there before, for the call alone does not ask for too many
    have hpos : 0 < h.entries.count ⟨name, expansion⟩ := by omega
    rw [hw.proper.add_zero hpos]
  · simp only [add, if_neg hzero, hcount, if_neg hmany, leaving, Tally.add_add, Nat.zero_add]

/-- A call ends as staging does. -/
theorem Within.snd_call (hw : h.Within) (hstep : step.count ≤ Text.maxCount) :
    (h.call step).2 = h.stage step := by
  cases step with
  | add n name expansion =>
    have hn : n ≤ Text.maxCount := hstep
    rw [call, hw.addInPlace_eq hn, stage]
    cases h.add n name expansion <;> rfl
  | remove n name expansion =>
    rw [call, removeInPlace, stage]
    cases h.remove n name expansion <;> rfl

/-- What a call needs to be granted. -/
def Allows (h : Holder) : Staging → Prop
  | .add n name expansion => h.entries.count ⟨name, expansion⟩ + n ≤ Text.maxCount
  | .remove n name expansion => 0 < n ∧ n ≤ h.entries.count ⟨name, expansion⟩

/-- The holder after a call that was granted. -/
structure Grants (h : Holder) (step : Staging) (h' : Holder) : Prop where
  within : h'.Within
  counts : ∀ key, h'.entries.count key + step.removed key = h.entries.count key + step.added key

theorem Within.remove_cases (hw : h.Within) (n : Nat) (name : String) (expansion : Option String) :
    h.Allows (.remove n name expansion) ∧ (∃ h', h.remove n name expansion = .ok h' ∧
      h.Grants (.remove n name expansion) h') ∨
    ¬ h.Allows (.remove n name expansion) ∧ ∃ reason, h.remove n name expansion = .error reason := by
  rw [remove, Allows]
  split
  · exact .inr ⟨by omega, _, rfl⟩
  rename_i hzero
  split
  · exact .inr ⟨by omega, _, rfl⟩
  rename_i hfew
  refine .inl ⟨by omega, _, rfl, ⟨hw.proper.take _ n, fun key => ?_⟩, fun key => ?_⟩
  · rw [hw.proper.count_take]
    exact Nat.le_trans (Nat.sub_le _ _) (hw.fits key)
  · rw [hw.proper.count_take, Staging.removed, Staging.added]
    split
    · rename_i heq
      obtain rfl := beq_iff_eq.mp heq
      omega
    · rfl

/-- A call is granted and does what it says, or it is refused and does nothing. -/
theorem Within.call_cases (hw : h.Within) (hstep : step.count ≤ Text.maxCount) :
    h.Allows step ∧ (∃ h', h.call step = (.ok (), h') ∧ h.Grants step h') ∨
    ¬ h.Allows step ∧ ∃ reason, h.call step = (.error reason, h) := by
  cases step with
  | add n name expansion =>
    have hn : n ≤ Text.maxCount := hstep
    rw [call, hw.addInPlace_eq hn]
    rcases hw.add_cases n name expansion with ⟨h', hok, _, hstages⟩ | ⟨hmany, reason, herror⟩
    · refine .inl ⟨?_, h', by rw [hok, leaving], hstages.within, hstages.counts⟩
      have hcount := hstages.counts ⟨name, expansion⟩
      rw [if_pos (beq_self_eq_true _)] at hcount
      rw [Allows, ← hcount]
      exact hstages.within.fits _
    · exact .inr ⟨Nat.not_le_of_gt hmany, _, by rw [herror, leaving]⟩
  | remove n name expansion =>
    rw [call, removeInPlace]
    rcases hw.remove_cases n name expansion with
      ⟨hallows, h', hok, hgrants⟩ | ⟨hnot, reason, herror⟩
    · exact .inl ⟨hallows, h', by rw [hok, leaving], hgrants⟩
    · exact .inr ⟨hnot, reason, by rw [herror, leaving]⟩

theorem Within.refuses_iff (hw : h.Within) (hstep : step.count ≤ Text.maxCount) :
    h.Refuses step ↔ ¬ h.Allows step := by
  rcases hw.call_cases hstep with ⟨hallows, _, hcall, _⟩ | ⟨hnot, reason, hcall⟩
  · simp [Refuses, hcall, hallows]
  · simp [Refuses, hcall, hnot]

/-! Any number of calls -/

theorem Within.called (hw : h.Within) (hsteps : ∀ step ∈ steps, step.count ≤ Text.maxCount) :
    (h.called steps).Within ∧ ∀ key, (h.called steps).entries.count key +
      countSum ((h.granted steps).map (·.removed key)) =
        h.entries.count key + countSum ((h.granted steps).map (·.added key)) := by
  induction steps generalizing h with
  | nil => exact ⟨hw, fun key => rfl⟩
  | cons step steps ih =>
    obtain ⟨hstep, hsteps⟩ := List.forall_mem_cons.mp hsteps
    rw [Holder.called, List.foldl_cons, granted]
    rcases hw.call_cases hstep with ⟨_, h', hcall, hgrants⟩ | ⟨_, reason, hcall⟩
    · rw [hcall]
      obtain ⟨hwithin, hcounts⟩ := ih hgrants.within hsteps
      refine ⟨hwithin, fun key => ?_⟩
      have hstep := hgrants.counts key
      have hrest := hcounts key
      rw [Holder.called] at hrest
      simp only [List.map_cons, Tally.countSum_cons]
      omega
    · rw [hcall]
      exact ih hw hsteps

theorem Within.called_eq (hw : h.Within) (hsteps : ∀ step ∈ steps, step.count ≤ Text.maxCount) :
    h.called steps = steps.foldl stage h := by
  induction steps generalizing h with
  | nil => rfl
  | cons step steps ih =>
    obtain ⟨hstep, hsteps⟩ := List.forall_mem_cons.mp hsteps
    have hw' : (h.called [step]).Within :=
      (hw.called fun s hs => List.mem_singleton.mp hs ▸ hstep).1
    rw [List.foldl_cons, ← hw.snd_call hstep]
    exact ih hw' hsteps

/-- There are at most as many copies as the entries have room for. -/
theorem Within.size_le (hw : h.Within) : h.size ≤ h.entries.entries.length * Text.maxCount := by
  have hfits : ∀ m ∈ h.entries.entries.map (·.2), m ≤ Text.maxCount := by
    intro m hm
    obtain ⟨e, he, rfl⟩ := List.mem_map.mp hm
    rw [(hw.proper.mem_entries_iff_count.mp he).1]
    exact hw.fits e.1
  have hsum := Tally.countSum_le hfits
  rwa [List.length_map] at hsum

/-- A holder as an account of the calls that were granted. -/
structure Accounts (h : Holder) (granted : List Staging) : Prop where
  counts : ∀ key, h.entries.count key + countSum (granted.map (·.removed key)) =
    countSum (granted.map (·.added key))
  once : (h.entries.entries.map (·.1)).Nodup
  stored : ∀ key n, (key, n) ∈ h.entries.entries ↔ n = h.entries.count key ∧ 0 < n
  /-- A refused call leaves the holder as it was. -/
  unchanged : ∀ step : Staging, step.count ≤ Text.maxCount → h.Refuses step → (h.call step).2 = h
  add_refused : ∀ n ≤ Text.maxCount, ∀ name expansion,
    h.Refuses (.add n name expansion) ↔ Text.maxCount < h.entries.count ⟨name, expansion⟩ + n
  remove_refused : ∀ n ≤ Text.maxCount, ∀ name expansion,
    h.Refuses (.remove n name expansion) ↔ n = 0 ∨ h.entries.count ⟨name, expansion⟩ < n
  size_eq : ∀ keys : List NamedPrinting, keys.Nodup →
    (∀ key, 0 < h.entries.count key → key ∈ keys) → h.size = countSum (keys.map h.entries.count)
  /-- With as many entries the number of copies still fits into 64 bits. -/
  size_lt : h.entries.entries.length ≤ idBound + 1 → h.size < idBound * idBound
  isEmpty_iff : h.isEmpty = true ↔ h.size = 0

/-- Whatever is called on a new holder, of each entry there is what was added less what was taken back, and
nothing else in the holder changes. -/
theorem called_accounts (hnew : h.entries = .empty)
    (hsteps : ∀ step ∈ steps, step.count ≤ Text.maxCount) :
    (h.called steps).Accounts (h.granted steps) ∧
      h.called steps = { h with entries := (h.called steps).entries } := by
  have hw : h.Within := by
    refine ⟨hnew ▸ Tally.proper_empty, fun key => ?_⟩
    rw [hnew]
    exact Nat.zero_le _
  obtain ⟨hw', hcounts⟩ := hw.called hsteps
  have hrest : h.called steps = { h with entries := (h.called steps).entries } := by
    rw [hw.called_eq hsteps]
    exact foldl_stage_eq h steps
  refine ⟨?_, hrest⟩
  constructor
  case counts =>
    intro key
    have hnone : h.entries.count key = 0 := hnew ▸ rfl
    rw [hcounts, hnone, Nat.zero_add]
  case once => exact hw'.proper.nodup
  case stored => exact fun key n => hw'.proper.mem_entries_iff_count
  case unchanged =>
    intro step hstep hrefuses
    rcases hw'.call_cases hstep with ⟨hallows, _⟩ | ⟨_, reason, hcall⟩
    · exact absurd hallows ((hw'.refuses_iff hstep).mp hrefuses)
    · rw [hcall]
  case add_refused =>
    intro n hn name expansion
    have hstep : (Staging.add n name expansion).count ≤ Text.maxCount := hn
    rw [hw'.refuses_iff hstep, Allows, Nat.not_le]
  case remove_refused =>
    intro n hn name expansion
    have hstep : (Staging.remove n name expansion).count ≤ Text.maxCount := hn
    rw [hw'.refuses_iff hstep, Allows]
    omega
  case size_eq => exact fun keys hnodup hall => hw'.proper.total_eq hnodup hall
  case size_lt =>
    intro hlength
    have hle := Nat.le_trans hw'.size_le (Nat.mul_le_mul_right Text.maxCount hlength)
    exact Nat.lt_of_le_of_lt hle (by decide)
  case isEmpty_iff => exact hw'.proper.isEmpty_iff

/-- An entry that is filled to the brim, one that is taken back, and calls that are refused between. -/
def brimSteps : List Staging :=
  [.add 4000000000 "Fox" none, .add 4000000000 "Fox" none, .remove 0 "Fox" none,
    .add 294967295 "Fox" none, .add 4294967295 "Fox" (some "Jyhad"), .add 1 "Fox" none,
    .remove 1 "Owl" none, .add 2 "Owl" none, .remove 3 "Owl" none, .remove 2 "Owl" none]

theorem called_accounts_brim : empty.entries = .empty ∧
    (∀ step ∈ brimSteps, step.count ≤ Text.maxCount) ∧
    (empty.called brimSteps).entries.entries =
      [(⟨"Fox", none⟩, 4294967295), (⟨"Fox", some "Jyhad"⟩, 4294967295)] ∧
    (empty.granted brimSteps).length = 5 ∧
    (empty.called brimSteps).Accounts (empty.granted brimSteps) := by
  have hsteps : ∀ step ∈ brimSteps, step.count ≤ Text.maxCount := by decide
  exact ⟨rfl, hsteps, by decide +kernel, by decide +kernel, (called_accounts rfl hsteps).1⟩

end CardBinder.Holder
