import CardBinder.Proofs.Rows
import CardBinder.Relation

/-! Link tables are kept in ascending order, each link once, so a stored table is read back as it was. -/

namespace CardBinder
variable {l l' : Link} {ls acc : List Link}

/-- By card, then by what the card is linked to. -/
def Link.Precedes (a b : Link) : Prop :=
  a.card.val < b.card.val ∨ a.card.val = b.card.val ∧ a.target < b.target

theorem Link.compare_eq (a b : Link) :
    compare a b = (compare a.card.val b.card.val).then (compare a.target b.target) := rfl

theorem Link.compare_lt : compare l l' = .lt ↔ l.Precedes l' := by
  rw [compare_eq, Link.Precedes, Ordering.then_eq_lt, Nat.compare_eq_lt, Nat.compare_eq_eq,
    Nat.compare_eq_lt]

theorem Link.compare_gt : compare l l' = .gt ↔ l'.Precedes l := by
  rw [compare_eq, Link.Precedes, Ordering.then_eq_gt, Nat.compare_eq_gt, Nat.compare_eq_eq,
    Nat.compare_eq_gt, eq_comm (a := l'.card.val)]

instance : Std.TransOrd Link :=
  inferInstanceAs (Std.TransCmp (compareLex (compareOn Link.card) (compareOn Link.target)))

instance : Std.LawfulEqOrd Link where
  eq_of_compare {a b} h := by
    rw [Link.compare_eq, Ordering.then_eq_eq, Nat.compare_eq_eq, Nat.compare_eq_eq] at h
    exact congrArg₂ Link.mk (RowId.ext h.1) h.2

namespace LinkTable
variable {t : LinkTable}

/-- The links ascend. -/
def Sorted (t : LinkTable) : Prop :=
  t.links.Pairwise Link.Precedes

theorem sorted_empty : empty.Sorted := List.Pairwise.nil

section Ascending
variable {α : Type} [Ord α] {x y : α} {ys : List α}

theorem mem_insertInto [Std.LawfulEqOrd α] : y ∈ insertInto x ys ↔ y = x ∨ y ∈ ys := by
  induction ys with
  | nil => simp [insertInto]
  | cons z rest ih =>
    rw [insertInto]
    split
    · exact List.mem_cons
    · rename_i heq
      rw [Std.LawfulEqOrd.eq_of_compare heq]
      exact ⟨.inr, fun h => h.elim (fun heq => heq ▸ List.mem_cons_self) id⟩
    · rw [List.mem_cons, ih, List.mem_cons]
      exact or_left_comm

theorem pairwise_insertInto [Std.TransOrd α] [Std.LawfulEqOrd α]
    (h : ys.Pairwise fun a b => compare a b = .lt) :
    (insertInto x ys).Pairwise fun a b => compare a b = .lt := by
  induction ys with
  | nil => exact List.pairwise_singleton _ _
  | cons z rest ih =>
    obtain ⟨hz, hrest⟩ := List.pairwise_cons.mp h
    rw [insertInto]
    split
    · rename_i hlt
      refine List.pairwise_cons.mpr ⟨?_, h⟩
      intro y hy
      rcases List.mem_cons.mp hy with rfl | hy
      · exact hlt
      · exact Std.TransCmp.lt_trans hlt (hz y hy)
    · exact h
    · rename_i hgt
      refine List.pairwise_cons.mpr ⟨?_, ih hrest⟩
      intro y hy
      rcases mem_insertInto.mp hy with rfl | hy
      · exact Std.OrientedCmp.gt_iff_lt.mp hgt
      · exact hz y hy

end Ascending

theorem sorted_iff : t.Sorted ↔ t.links.Pairwise fun a b => compare a b = .lt := by
  simp only [Sorted, Link.compare_lt]

theorem Sorted.insert (h : t.Sorted) (card : CardId) (target : Nat) :
    (t.insert card target).Sorted :=
  sorted_iff.mpr (pairwise_insertInto (sorted_iff.mp h))

theorem sorted_ofLinks (ls : List Link) : (ofLinks ls).Sorted :=
  List.foldlRecOn (motive := Sorted) ls _ sorted_empty fun _ h l _ => h.insert l.card l.target

theorem mem_ofLinks (h : l ∈ (ofLinks ls).links) : l ∈ ls := by
  have hall : ∀ x ∈ (ofLinks ls).links, x ∈ ls := by
    refine List.foldlRecOn (motive := fun t : LinkTable => ∀ x ∈ t.links, x ∈ ls) ls _
      (by simp [empty]) ?_
    intro t ht y hy x hx
    rcases mem_insertInto.mp hx with rfl | hx
    · exact hy
    · exact ht x hx
  exact hall l h

/-- A link after all others is put at the end. -/
theorem insertInto_of_last (h : ∀ x ∈ ls, x.Precedes l) : insertInto l ls = ls ++ [l] := by
  induction ls with
  | nil => rfl
  | cons x rest ih =>
    have hx := Link.compare_gt.mpr (h x List.mem_cons_self)
    rw [insertInto, hx, List.cons_append, ih fun y hy => h y (List.mem_cons_of_mem _ hy)]

theorem foldl_insert_of_pairwise (h : (acc ++ ls).Pairwise Link.Precedes) :
    ls.foldl (fun (t : LinkTable) l => t.insert l.card l.target) ⟨acc⟩ = ⟨acc ++ ls⟩ := by
  induction ls generalizing acc with
  | nil => simp
  | cons l ls ih =>
    have hlast : ∀ x ∈ acc, x.Precedes l := fun x hx =>
      (List.pairwise_append.mp h).2.2 x hx l List.mem_cons_self
    rw [List.foldl_cons, insert, insertInto_of_last hlast]
    rw [List.append_cons acc l ls] at h ⊢
    exact ih h

/-- Links in order make the table they came from. -/
theorem Sorted.ofLinks_links (h : t.Sorted) : ofLinks t.links = t :=
  foldl_insert_of_pairwise (List.nil_append t.links ▸ h)

end LinkTable
end CardBinder
