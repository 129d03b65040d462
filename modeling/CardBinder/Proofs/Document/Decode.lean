import CardBinder.Json.Decode
import Mathlib.Data.List.Nodup

/-! Reading back what was written: records by their fields, lists item by item, numbers within bounds. -/

namespace CardBinder.Json
variable {α β : Type} {f : Json → Option α} {g : α → Json} {limit n : Nat} {v : Json}

@[simp] theorem get?_some : get? f (some v) = f v := rfl

@[simp] theorem getOr?_some (a : α) : getOr? a f (some v) = f v := rfl

@[simp] theorem text?_text (s : String) : text? (.text s) = some s := rfl

@[simp] theorem bool?_bool (b : Bool) : bool? (.bool b) = some b := rfl

theorem filter_of_mem {fields : List (String × Json)} (hn : (fields.map (·.1)).Nodup)
    {name : String} (hv : (name, v) ∈ fields) : fields.filter (·.1 == name) = [(name, v)] := by
  induction fields with
  | nil => cases hv
  | cons x fields ih =>
    rw [List.map_cons, List.nodup_cons] at hn
    rcases List.mem_cons.mp hv with rfl | hv
    · have hrest : fields.filter (·.1 == name) = [] := by
        rw [List.filter_eq_nil_iff]
        rintro y hy heq
        exact hn.1 (List.mem_map.mpr ⟨y, hy, by simpa using heq⟩)
      simp [hrest]
    · have hne : ¬ x.1 = name := fun heq => hn.1 (List.mem_map.mpr ⟨_, hv, heq.symm⟩)
      rw [List.filter_cons_of_neg (by simpa using hne), ih hn.2 hv]

/-- An object with just the fields of a shape gives their values in order. -/
theorem record?_object {shape : List (String × Presence)} {fields : List (String × Json)}
    (hn : (shape.map (·.1)).Nodup) (hs : fields.map (·.1) = shape.map (·.1)) :
    record? shape (.object fields) = some (fields.map fun x => some x.2) := by
  have hfield : ∀ x ∈ fields, ∀ p, fieldOf? fields x.1 p = some (some x.2) := by
    intro x hx p
    rw [fieldOf?, filter_of_mem (hs ▸ hn) hx]
  rw [record?]
  -- the part of the shape that is still to be read goes along with the part of the fields
  have hread : ∀ (shape' : List (String × Presence)) (fields' : List (String × Json)),
      (∀ x ∈ fields', x ∈ fields) → fields'.map (·.1) = shape'.map (·.1) →
      shape'.mapM (fun s => fieldOf? fields s.1 s.2) =
        some (fields'.map fun x => some x.2) := by
    intro shape'
    induction shape' with
    | nil =>
      intro fields' _ hs'
      obtain rfl := List.map_eq_nil_iff.mp hs'
      rfl
    | cons s shape' ih =>
      intro fields' hsub hs'
      cases fields' with
      | nil => cases hs'
      | cons x fields' =>
        obtain ⟨hname, hs'⟩ := List.cons.inj hs'
        have hx := hfield x (hsub x List.mem_cons_self) s.2
        have hrest := ih fields' (fun y hy => hsub y (List.mem_cons_of_mem _ hy)) hs'
        simp only at hname
        rw [hname] at hx
        simp [List.mapM_cons, hx, hrest]
  exact hread shape fields (fun _ h => h) hs

theorem natUpTo?_nat (h : n ≤ limit) : natUpTo? limit (nat n) = some n := by
  simp [natUpTo?, nat, h]

theorem le_of_natUpTo? (h : natUpTo? limit v = some n) : n ≤ limit := by
  unfold natUpTo? at h
  split at h
  · split at h
    · rename_i hle
      exact Option.some.inj h ▸ hle
    · cases h
  · cases h

theorem mapM_map_some {xs : List α} (h : ∀ x ∈ xs, f (g x) = some x) :
    (xs.map g).mapM f = some xs := by
  induction xs with
  | nil => rfl
  | cons x xs ih =>
    have hx := h x List.mem_cons_self
    have hxs := ih fun y hy => h y (List.mem_cons_of_mem _ hy)
    simp [List.mapM_cons, hx, hxs]

theorem list?_map {xs : List α} (h : ∀ x ∈ xs, f (g x) = some x) :
    list? f (.list (xs.map g)) = some xs :=
  mapM_map_some h

theorem mem_of_mapM {vs : List Json} {xs : List α} (h : vs.mapM f = some xs) :
    ∀ x ∈ xs, ∃ v, f v = some x := by
  induction vs generalizing xs with
  | nil =>
    obtain rfl := Option.some.inj h
    simp
  | cons v vs ih =>
    rw [List.mapM_cons] at h
    obtain ⟨y, hy, h⟩ := Option.bind_eq_some_iff.mp h
    obtain ⟨ys, hys, h⟩ := Option.bind_eq_some_iff.mp h
    obtain rfl := Option.some.inj h
    intro x hx
    rcases List.mem_cons.mp hx with rfl | hx
    · exact ⟨v, hy⟩
    · exact ih hys x hx

/-- What a list was read from. -/
theorem mem_of_list? {xs : List α} (h : list? f v = some xs) : ∀ x ∈ xs, ∃ v, f v = some x := by
  unfold list? at h
  split at h
  · exact mem_of_mapM h
  · cases h

theorem getNullable?_optional {x : Option α} (h : ∀ a ∈ x, f (g a) = some a)
    (hnull : ∀ a, g a ≠ .null) : getNullable? f (some (optional g x)) = some x := by
  cases x with
  | none => rfl
  | some a =>
    have ha := h a rfl
    simp only [getNullable?, getOr?, optional]
    unfold optional?
    split
    · rename_i hg
      exact absurd hg (hnull a)
    · simp [ha]

theorem of_getNullable? {field : Option Json} {x : Option α} (h : getNullable? f field = some x) :
    ∀ a ∈ x, ∃ v, f v = some a := by
  intro a ha
  obtain rfl := Option.mem_def.mp ha
  cases field with
  | none => cases h
  | some v =>
    simp only [getNullable?, getOr?] at h
    unfold optional? at h
    split at h
    · cases h
    · obtain ⟨b, hb, hba⟩ := Option.map_eq_some_iff.mp h
      exact ⟨v, Option.some.inj hba ▸ hb⟩

theorem of_get? {field : Option Json} {x : α} (h : get? f field = some x) : ∃ v, f v = some x := by
  cases field with
  | none => cases h
  | some v => exact ⟨v, h⟩

end CardBinder.Json
