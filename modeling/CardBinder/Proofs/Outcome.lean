import CardBinder.Failure
import Mathlib.Data.List.Forall2

/-! Chains of steps that can fail, taken apart at their first step. -/

namespace CardBinder

namespace Outcome
variable {α β : Type} {x : Outcome α} {f : α → Outcome β}

theorem bind_ok {b : β} (h : x >>= f = .ok b) : ∃ a, x = .ok a ∧ f a = .ok b := by
  cases x with
  | error failure => cases h
  | ok a => exact ⟨a, rfl, h⟩

theorem map_ok {g : α → β} {b : β} (h : x.map g = .ok b) : ∃ a, x = .ok a ∧ g a = b := by
  cases x with
  | error failure => cases h
  | ok a => exact ⟨a, rfl, Except.ok.inj h⟩

theorem bind_eq_ok_iff {b : β} : x >>= f = .ok b ↔ ∃ a, x = .ok a ∧ f a = .ok b :=
  ⟨bind_ok, fun ⟨_, hx, hf⟩ => hx ▸ hf⟩

theorem map_eq_ok_iff {g : α → β} {b : β} : x.map g = .ok b ↔ ∃ a, x = .ok a ∧ g a = b :=
  ⟨map_ok, fun ⟨_, hx, hg⟩ => hx ▸ hg ▸ rfl⟩

theorem map_of_ok {g : α → β} {a : α} (h : x = .ok a) : x.map g = .ok (g a) :=
  congrArg (Except.map g) h

/-- Something is answered, be it a failure. -/
def Answers (x : Outcome α) : Prop := x ≠ .error .outOfNumbers

@[simp] theorem answers_ok (a : α) : Answers (.ok a) := by
  simp [Answers]

@[simp] theorem answers_error_iff {failure : Failure} :
    Answers (.error failure : Outcome α) ↔ failure ≠ .outOfNumbers := by
  simp [Answers]

theorem Answers.bind (h : Answers x) (hf : ∀ a, x = .ok a → Answers (f a)) :
    Answers (x >>= f) := by
  cases x with
  | error failure => exact answers_error_iff.mpr (answers_error_iff.mp h)
  | ok a => exact hf a rfl

theorem Answers.map (h : Answers x) (g : α → β) : Answers (x.map g) := by
  cases x with
  | error failure => exact answers_error_iff.mpr (answers_error_iff.mp h)
  | ok a => exact answers_ok (g a)

/-! Steps done for each item of a list -/

variable {γ : Type} {xs : List α} {ys : List β} {zs : List γ}

theorem mapM_ok_iff : xs.mapM f = .ok ys ↔ List.Forall₂ (fun x y => f x = .ok y) xs ys := by
  induction xs generalizing ys with
  | nil =>
    rw [List.forall₂_nil_left_iff]
    exact ⟨fun h => (Except.ok.inj h).symm, fun h => congrArg Except.ok h.symm⟩
  | cons x xs ih =>
    rw [List.forall₂_cons_left_iff, List.mapM_cons]
    constructor
    · intro h
      obtain ⟨y, hy, h⟩ := bind_ok h
      obtain ⟨rest, hrest, h⟩ := bind_ok h
      exact ⟨y, rest, hy, ih.mp hrest, (Except.ok.inj h).symm⟩
    · rintro ⟨y, rest, hy, hrest, rfl⟩
      rw [hy, ih.mpr hrest]
      rfl

theorem mem_of_mapM (h : xs.mapM f = .ok ys) : ∀ y ∈ ys, ∃ x ∈ xs, f x = .ok y := by
  induction mapM_ok_iff.mp h with
  | nil => simp
  | cons hy hys ih =>
    refine List.forall_mem_cons.mpr ⟨⟨_, List.mem_cons_self, hy⟩, fun y hmem => ?_⟩
    obtain ⟨x, hx, hfx⟩ := ih (mapM_ok_iff.mpr hys) y hmem
    exact ⟨x, List.mem_cons_of_mem _ hx, hfx⟩

theorem exists_of_mapM (h : xs.mapM f = .ok ys) : ∀ x ∈ xs, ∃ y ∈ ys, f x = .ok y := by
  induction mapM_ok_iff.mp h with
  | nil => simp
  | cons hy hys ih =>
    refine List.forall_mem_cons.mpr ⟨⟨_, List.mem_cons_self, hy⟩, fun x hmem => ?_⟩
    obtain ⟨y, hy, hfx⟩ := ih (mapM_ok_iff.mpr hys) x hmem
    exact ⟨y, List.mem_cons_of_mem _ hy, hfx⟩

theorem exists_mapM (h : ∀ x ∈ xs, ∃ y, f x = .ok y) : ∃ ys, xs.mapM f = .ok ys := by
  induction xs with
  | nil => exact ⟨[], rfl⟩
  | cons x xs ih =>
    obtain ⟨⟨y, hy⟩, hxs⟩ := List.forall_mem_cons.mp h
    obtain ⟨ys, hys⟩ := ih hxs
    exact ⟨y :: ys, mapM_ok_iff.mpr (.cons hy (mapM_ok_iff.mp hys))⟩

theorem mapM_singleton (x : α) : [x].mapM f = (f x).map ([·]) := by
  rw [List.mapM_cons, List.mapM_nil]
  cases f x <;> rfl

/-- Two rounds over a list are one in which the steps follow each other. -/
theorem mapM_mapM_ok_iff {g : β → Outcome γ} : (∃ ys, xs.mapM f = .ok ys ∧ ys.mapM g = .ok zs) ↔
    xs.mapM (fun x => f x >>= g) = .ok zs := by
  simp only [mapM_ok_iff]
  induction xs generalizing zs with
  | nil => simp
  | cons x xs ih =>
    simp only [List.forall₂_cons_left_iff, ← ih]
    constructor
    · rintro ⟨_, ⟨y, ys, hy, hys, rfl⟩, hboth⟩
      obtain ⟨z, zs, hz, hzs, rfl⟩ := List.forall₂_cons_left_iff.mp hboth
      exact ⟨z, zs, by rw [hy]; exact hz, ⟨ys, hys, hzs⟩, rfl⟩
    · rintro ⟨z, zs, hz, ⟨ys, hys, hzs⟩, rfl⟩
      obtain ⟨y, hy, hz⟩ := bind_ok hz
      exact ⟨y :: ys, ⟨y, ys, hy, hys, rfl⟩, .cons hz hzs⟩

theorem map_map (x : Outcome α) (g : α → β) (h : β → γ) : (x.map g).map h = x.map (h ∘ g) := by
  cases x <;> rfl

theorem mapM_map (g : α → Outcome β) (h : β → γ) (xs : List α) :
    xs.mapM (fun x => (g x).map h) = (xs.mapM g).map (List.map h) := by
  induction xs with
  | nil => rfl
  | cons x xs ih =>
    rw [List.mapM_cons, List.mapM_cons, ih]
    cases g x with
    | error failure => rfl
    | ok y => cases xs.mapM g <;> rfl

end Outcome

/-! Steps that work on a state -/

variable {S α β : Type} {x : ExceptT Failure (StateM S) α} {f : α → ExceptT Failure (StateM S) β}
  {s : S} {P : Outcome α → S → Prop} {Q : Outcome β → S → Prop}

/-- What holds of the outcome of a step and of the state it leaves. -/
def Ends (x : ExceptT Failure (StateM S) α) (s : S) (P : Outcome α → S → Prop) : Prop :=
  P (x.run.run s).1 (x.run.run s).2

theorem Ends.pure {a : α} (h : P (.ok a) s) : Ends (Pure.pure a) s P := h

theorem Ends.throw {failure : Failure} (h : P (.error failure) s) :
    Ends (MonadExcept.throw failure) s P := h

theorem Ends.get {g : S → ExceptT Failure (StateM S) β} (h : Ends (g s) s Q) :
    Ends (MonadState.get >>= g) s Q := h

theorem Ends.mono {P' : Outcome α → S → Prop} (h : Ends x s P)
    (himp : ∀ r s', P r s' → P' r s') : Ends x s P' :=
  himp _ _ h

section If
variable {c : Prop} [Decidable c] {P' P'' : Outcome α → S → Prop}
  (h : Ends x s fun r s' => if c then P r s' else P' r s')
include h

theorem Ends.of_if (hc : c) : Ends x s P := (if_pos hc).mp h

theorem Ends.mono_if (himp : ∀ r s', P r s' → P'' r s') :
    Ends x s fun r s' => if c then P'' r s' else P' r s' := by
  by_cases hc : c
  · simp only [if_pos hc] at h ⊢
    exact h.mono himp
  · simp only [if_neg hc] at h ⊢
    exact h

end If

/-- The second step goes on from where the first one ends, unless that has failed. -/
theorem Ends.bind (hx : Ends x s P) (hok : ∀ a s', P (.ok a) s' → Ends (f a) s' Q)
    (herror : ∀ failure s', P (.error failure) s' → Q (.error failure) s') :
    Ends (x >>= f) s Q := by
  unfold Ends at hx ⊢
  have hrun : (x >>= f).run.run s = match x.run.run s with
      | (.ok a, s') => (f a).run.run s'
      | (.error failure, s') => (.error failure, s') := by
    change (ExceptT.bindCont f (x.run.run s).1) (x.run.run s).2 = _
    cases hr : x.run.run s with
    | mk r s' => cases r <;> rfl
  rw [hrun]
  cases hr : x.run.run s with
  | mk r s' =>
    rw [hr] at hx
    cases r with
    | ok a => exact hok a s' hx
    | error failure => exact herror failure s' hx

theorem Ends.bind_ok {a : α} {s₁ : S} (hx : Ends x s fun r s' => r = .ok a ∧ s' = s₁)
    (hf : Ends (f a) s₁ Q) : Ends (x >>= f) s Q := by
  refine hx.bind ?_ ?_
  · rintro _ _ ⟨hok, rfl⟩
    exact Except.ok.inj hok ▸ hf
  · rintro _ _ ⟨⟨⟩, _⟩

theorem Ends.bind_error {failure : Failure} {s₁ : S}
    (hx : Ends x s fun r s' => r = .error failure ∧ s' = s₁) :
    Ends (x >>= f) s fun r s' => r = .error failure ∧ s' = s₁ := by
  refine hx.bind ?_ ?_
  · rintro _ _ ⟨⟨⟩, _⟩
  · rintro _ _ ⟨hfail, rfl⟩
    exact ⟨congrArg Except.error (Except.error.inj hfail), rfl⟩

/-- Whatever a step ends in, it keeps a property of the state. -/
def Keeps (I : S → Prop) (x : ExceptT Failure (StateM S) α) : Prop :=
  ∀ s, I s → Ends x s fun _ s' => I s'

theorem Keeps.pure {I : S → Prop} (a : α) : Keeps I (Pure.pure a) := fun _ h => h

theorem Keeps.bind {I : S → Prop} (hx : Keeps I x) (hf : ∀ a, Keeps I (f a)) :
    Keeps I (x >>= f) :=
  fun s h => (hx s h).bind (fun a s' h' => hf a s' h') fun _ _ h' => h'

end CardBinder
