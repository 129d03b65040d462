import CardBinder.Search
import CardBinder.Proofs.Rows

/-! Halving finds a row by its number whenever the numbers ascend, and never finds a wrong one. -/

namespace CardBinder
variable {α : Type} {key : α → Nat} {rows : List α} {next wanted i : Nat} {r : α}

/-- The window always holds the wanted row. -/
theorem halve_eq (h : InOrder key rows next) (hi : rows[i]? = some r) (hr : key r = wanted) :
    ∀ fuel base size, size ≤ fuel → base ≤ i → i < base + size →
      halve rows key wanted fuel base size = i := by
  intro fuel
  induction fuel with
  | zero =>
    intro base size hs hb hlt
    omega
  | succ fuel ih =>
    intro base size hs hb hlt
    rw [halve]
    split
    · omega
    · rename_i hsize
      cases hm : rows[base + size / 2]? with
      | none =>
        have hlen := List.getElem?_eq_none_iff.mp hm
        obtain ⟨hil, _⟩ := List.getElem?_eq_some_iff.mp hi
        simp only [hm, if_true]
        exact ih _ _ (by omega) hb (by omega)
      | some row =>
        simp only [hm, decide_eq_true_eq]
        split
        · rename_i hfar
          have hlt' := h.lt_of_getElem? hi hm (hr ▸ hfar)
          exact ih _ _ (by omega) hb (by omega)
        · rename_i hnear
          have hle : base + size / 2 ≤ i := by
            by_contra hc
            obtain ⟨hil, hig⟩ := List.getElem?_eq_some_iff.mp hi
            obtain ⟨hml, hmg⟩ := List.getElem?_eq_some_iff.mp hm
            have := List.pairwise_iff_getElem.mp h.ascends i (base + size / 2) hil hml (by omega)
            rw [hig, hmg] at this
            omega
          exact ih (base + size / 2) (size - size / 2) (by omega) hle (by omega)

/-- What is found is a row with the wanted number, in whatever order the rows are. -/
theorem place?_some (h : place? rows key wanted = some i) :
    ∃ r, rows[i]? = some r ∧ key r = wanted := by
  simp only [place?] at h
  split at h
  · rename_i r hr
    split at h
    · rename_i hk
      exact ⟨r, Option.some.inj h ▸ hr, hk⟩
    · cases h
  · cases h

theorem place?_eq_some_iff (h : InOrder key rows next) :
    place? rows key wanted = some i ↔ ∃ r, rows[i]? = some r ∧ key r = wanted := by
  constructor
  · exact place?_some
  · rintro ⟨r, hi, hr⟩
    obtain ⟨hil, _⟩ := List.getElem?_eq_some_iff.mp hi
    have hplace := halve_eq h hi hr rows.length 0 rows.length (Nat.le_refl _) (by omega) (by omega)
    simp only [place?, hplace, hi, hr, if_true]

theorem rowAt?_some (h : rowAt? rows key wanted = some r) : r ∈ rows ∧ key r = wanted := by
  obtain ⟨i, hp, hi⟩ := Option.bind_eq_some_iff.mp h
  obtain ⟨r', hr', hk⟩ := place?_some hp
  rw [hi, Option.some.injEq] at hr'
  exact ⟨List.mem_of_getElem? hi, hr' ▸ hk⟩

theorem rowAt?_eq_some_iff (h : InOrder key rows next) :
    rowAt? rows key wanted = some r ↔ r ∈ rows ∧ key r = wanted := by
  constructor
  · exact rowAt?_some
  · rintro ⟨hr, hk⟩
    obtain ⟨i, hi⟩ := List.mem_iff_getElem?.mp hr
    exact Option.bind_eq_some_iff.mpr ⟨i, (place?_eq_some_iff h).mpr ⟨r, hi, hk⟩, hi⟩

end CardBinder
