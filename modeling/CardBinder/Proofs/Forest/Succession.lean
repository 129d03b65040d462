import CardBinder.Proofs.Forest.Detection

/-! A new set takes the place of an old one: where it closes a loop, and that no other loop comes up. -/

namespace CardBinder

/-! Ways through some points of a relation that follows another one elsewhere -/

section Ways
variable {α : Type} {r r' : α → α → Prop} {f : α → α} {P : α → Prop} {x y : α}

/-- A way to one of the points follows the other relation up to the first that it comes to. -/
theorem exists_reached (hstep : ∀ x y, r' x y → ¬ P x → r (f x) (f y))
    (hway : Relation.ReflTransGen r' x y) (hy : P y) :
    ∃ n, P n ∧ Relation.ReflTransGen r (f x) (f n) := by
  induction hway using Relation.ReflTransGen.head_induction_on with
  | refl => exact ⟨y, hy, .refl⟩
  | @head x z hxz _ ih =>
    by_cases hx : P x
    · exact ⟨x, hx, .refl⟩
    · obtain ⟨n, hn, hrest⟩ := ih
      exact ⟨n, hn, .head (hstep x z hxz hx) hrest⟩

/-- A way that comes through none of the points follows the other relation all along. -/
theorem transGen_or_through (hstep : ∀ x y, r' x y → ¬ P x → r (f x) (f y))
    (hway : Relation.TransGen r' x y) : Relation.TransGen r (f x) (f y) ∨
      ∃ n, P n ∧ Relation.ReflTransGen r' x n ∧ Relation.TransGen r' n y := by
  induction hway using Relation.TransGen.head_induction_on with
  | @single x hxy =>
    by_cases hx : P x
    · exact .inr ⟨x, hx, .refl, .single hxy⟩
    · exact .inl (.single (hstep x y hxy hx))
  | @head x z hxz hway ih =>
    by_cases hx : P x
    · exact .inr ⟨x, hx, .refl, .head hxz hway⟩
    · rcases ih with hin | ⟨n, hn, hto, hfrom⟩
      · exact .inl (.head (hstep x z hxz hx) hin)
      · exact .inr ⟨n, hn, .head hxz hto, hfrom⟩

end Ways

namespace Database
variable {db db' : Database} {old p x y : CardSetId} {row : CardSet} {rows : List CardSet}

theorem SetsAscend.onLoop_iff_transGen (h : db.SetsAscend) :
    db.onLoop x = true ↔ Relation.TransGen db.ParentLink x x := by
  rw [onLoop_iff, h.transGen_iff]

theorem SetsAscend.acyclic_iff_transGen (h : db.SetsAscend) :
    db.Acyclic ↔ ∀ x, ¬ Relation.TransGen db.ParentLink x x := by
  simp only [h.transGen_iff, Acyclic, not_exists, ne_eq]

/-- The rows with `row` in the place of `old`: its children are below the new set, which comes last. -/
def succeed (old : CardSetId) (row : CardSet) (rows : List CardSet) : List CardSet :=
  (rows.filter (·.id != old)).map (fun cs =>
    if cs.parent = some old then { cs with parent := some row.id } else cs) ++ [row]

theorem succeed_ids (old : CardSetId) (row : CardSet) (rows : List CardSet) :
    (succeed old row rows).map (·.id) = (rows.filter (·.id != old)).map (·.id) ++ [row.id] := by
  rw [succeed, List.map_append, List.map_map]
  refine congrArg (· ++ [row.id]) (List.map_congr_left fun cs _ => ?_)
  rw [Function.comp_apply]
  split <;> rfl

/-- Where no set is replaced, the new one only comes to the others. -/
theorem succeed_self (row : CardSet) (hid : ∀ cs ∈ rows, cs.id ≠ row.id)
    (hparent : ∀ cs ∈ rows, cs.parent ≠ some row.id) : succeed row.id row rows = rows ++ [row] := by
  have hall : rows.filter (·.id != row.id) = rows :=
    List.filter_eq_self.mpr fun cs hcs => by simpa using hid cs hcs
  have hsame : rows.map (fun cs =>
      if cs.parent = some row.id then { cs with parent := some row.id } else cs) = rows.map id :=
    List.map_congr_left fun cs hcs => by simp [hparent cs hcs]
  rw [succeed, hall, hsame, List.map_id]

theorem setsAscend_succeed (h : db.SetsAscend) (hlast : ∀ cs ∈ db.cardSets, cs.id.val < row.id.val)
    (hrows : db'.cardSets = succeed old row db.cardSets) : db'.SetsAscend := by
  rw [setsAscend_iff, hrows, succeed_ids]
  refine List.pairwise_append.mpr ⟨?_, List.pairwise_singleton _ _, ?_⟩
  · exact List.pairwise_map.mpr (h.sublist List.filter_sublist)
  · intro id hid new hnew
    obtain ⟨cs, hcs, rfl⟩ := List.mem_map.mp hid
    obtain rfl := List.mem_singleton.mp hnew
    exact hlast cs (List.mem_of_mem_filter hcs)

/-- A set is linked as before, but for the new set, and for those whose parent was the old one. -/
theorem parentLink_succeed (hrows : db'.cardSets = succeed old row db.cardSets) :
    db'.ParentLink x y ↔ x = row.id ∧ row.parent = some y ∨
      x ≠ old ∧ ∃ z, db.ParentLink x z ∧ y = if z = old then row.id else z := by
  rw [ParentLink, hrows, succeed]
  constructor
  · rintro ⟨cs, hcs, rfl, hparent⟩
    rcases List.mem_append.mp hcs with hcs | hcs
    · obtain ⟨cs, hkept, rfl⟩ := List.mem_map.mp hcs
      obtain ⟨hmem, hid⟩ := List.mem_filter.mp hkept
      right
      split at hparent <;> rename_i hold
      · rw [if_pos hold]
        refine ⟨by simpa using hid, old, ⟨cs, hmem, rfl, hold⟩, ?_⟩
        rw [if_pos rfl]
        exact (Option.some.inj hparent).symm
      · rw [if_neg hold]
        refine ⟨by simpa using hid, y, ⟨cs, hmem, rfl, hparent⟩, ?_⟩
        rw [if_neg]
        rintro rfl
        exact hold hparent
    · obtain rfl := List.mem_singleton.mp hcs
      exact .inl ⟨rfl, hparent⟩
  · rintro (⟨rfl, hparent⟩ | ⟨hx, z, ⟨cs, hcs, rfl, hparent⟩, rfl⟩)
    · exact ⟨row, List.mem_append_right _ (List.mem_singleton_self row), rfl, hparent⟩
    · refine ⟨_, List.mem_append_left _ (List.mem_map_of_mem
        (List.mem_filter.mpr ⟨hcs, by simpa using hx⟩)), ?_⟩
      split <;> rename_i hold
      · obtain rfl := Option.some.inj (hparent.symm.trans hold)
        exact ⟨rfl, by rw [if_pos rfl]⟩
      · refine ⟨rfl, ?_⟩
        rw [if_neg, hparent]
        rintro rfl
        exact hold hparent

/-- The new set comes in at the place `old`, where there was none of its number. -/
structure Succeeds (db db' : Database) (old : CardSetId) (row : CardSet) : Prop where
  rows : db'.cardSets = succeed old row db.cardSets
  ascends : db.SetsAscend
  last : ∀ cs ∈ db.cardSets, cs.id.val < row.id.val
  parents : ∀ cs ∈ db.cardSets, ∀ parent ∈ cs.parent, parent ∈ db.cardSets.map (·.id)
  parent : ∀ parent ∈ row.parent, parent ≠ old ∧ parent ∈ db.cardSets.map (·.id)

namespace Succeeds
variable (h : Succeeds db db' old row)
include h

theorem ascends' : db'.SetsAscend := setsAscend_succeed h.ascends h.last h.rows

theorem new_not_mem : row.id ∉ db.cardSets.map (·.id) := by
  rintro hmem
  obtain ⟨cs, hcs, hid⟩ := List.mem_map.mp hmem
  exact Nat.lt_irrefl _ (hid ▸ h.last cs hcs)

theorem parent_mem (hlink : db.ParentLink x y) : y ∈ db.cardSets.map (·.id) := by
  obtain ⟨cs, hcs, _, hparent⟩ := hlink
  exact h.parents cs hcs y hparent

/-- With the old set for the new one, a link of the others is a link from before. -/
theorem link_before (hlink : db'.ParentLink x y) (hx : x ≠ row.id) :
    db.ParentLink (if x = row.id then old else x) (if y = row.id then old else y) := by
  rcases (parentLink_succeed h.rows).mp hlink with ⟨hnew, _⟩ | ⟨_, z, hz, rfl⟩
  · exact absurd hnew hx
  · rw [if_neg hx]
    by_cases hold : z = old
    · rwa [if_pos hold, if_pos rfl, ← hold]
    · have hne : z ≠ row.id := fun heq => h.new_not_mem (heq ▸ h.parent_mem hz)
      rwa [if_neg hold, if_neg hne]

/-- Ways up to the old set lead to the new one. -/
theorem way_after (hway : Relation.TransGen db.ParentLink x old) (hx : x ≠ old) :
    Relation.TransGen db'.ParentLink x row.id := by
  have hlink : ∀ {x z}, db.ParentLink x z → x ≠ old →
      db'.ParentLink x (if z = old then row.id else z) :=
    fun hxz hx => (parentLink_succeed h.rows).mpr (.inr ⟨hx, _, hxz, rfl⟩)
  induction hway using Relation.TransGen.head_induction_on with
  | @single x hxy =>
    have hlast := hlink hxy hx
    rw [if_pos rfl] at hlast
    exact .single hlast
  | @head x z hxz _ ih =>
    have hfirst := hlink hxz hx
    by_cases hz : z = old
    · rw [if_pos hz] at hfirst
      exact .single hfirst
    · rw [if_neg hz] at hfirst
      exact .head hfirst (ih hz)

/-- The new set is on a loop exactly when its parent was below the old one. -/
theorem onLoop_iff : db'.onLoop row.id = true ↔
    ∃ parent ∈ row.parent, Relation.TransGen db.ParentLink parent old := by
  rw [h.ascends'.onLoop_iff_transGen]
  constructor
  · intro hloop
    obtain ⟨parent, hlink, hway⟩ := Relation.TransGen.head'_iff.mp hloop
    rcases (parentLink_succeed h.rows).mp hlink with ⟨_, hparent⟩ | ⟨_, z, hz, _⟩
    · refine ⟨parent, hparent, ?_⟩
      have hne : parent ≠ row.id := fun heq => h.new_not_mem (heq ▸ (h.parent parent hparent).2)
      obtain ⟨_, rfl, hbefore⟩ :=
        exists_reached (P := (· = row.id)) (fun _ _ => h.link_before) hway rfl
      rw [if_neg hne, if_pos rfl] at hbefore
      exact (Relation.reflTransGen_iff_eq_or_transGen.mp hbefore).resolve_left
        (h.parent parent hparent).1.symm
    · exact absurd hz.mem h.new_not_mem
  · rintro ⟨parent, hparent, hway⟩
    exact .head ((parentLink_succeed h.rows).mpr (.inl ⟨rfl, hparent⟩))
      (h.way_after hway (h.parent parent hparent).1)

/-- A loop through none but sets from before would have been there before. -/
theorem acyclic (hacyclic : db.Acyclic) (hnew : db'.onLoop row.id = false) : db'.Acyclic := by
  rw [h.ascends'.acyclic_iff_transGen]
  intro x hloop
  have hno : ¬ Relation.TransGen db'.ParentLink row.id row.id := by
    rw [← h.ascends'.onLoop_iff_transGen, hnew]
    exact Bool.false_ne_true
  rcases transGen_or_through (P := (· = row.id)) (fun _ _ => h.link_before) hloop with
    hbefore | ⟨_, rfl, hto, hfrom⟩
  · exact (h.ascends.acyclic_iff_transGen.mp hacyclic) _ hbefore
  · exact hno (hfrom.trans_left hto)

/-- The new set has the children of the old one. -/
theorem children_eq (hacyclic : db.Acyclic) : db'.children row.id = db.children old := by
  have hrow : (row.parent == some row.id) = false := by
    refine beq_eq_false_iff_ne.mpr fun heq => ?_
    exact h.new_not_mem (h.parent row.id heq).2
  rw [children, children, h.rows, succeed, List.filter_append, List.filter_singleton, hrow]
  rw [List.filter_map, List.filter_filter, cond_false, List.append_nil, List.map_map]
  have hsame : (fun cs : CardSet => cs.id) ∘ (fun cs =>
      if cs.parent = some old then { cs with parent := some row.id } else cs) = (·.id) := by
    funext cs
    rw [Function.comp_apply]
    split <;> rfl
  rw [hsame]
  refine congrArg _ (List.filter_congr fun cs hcs => ?_)
  rw [Bool.eq_iff_iff, Bool.and_eq_true, Function.comp_apply, beq_iff_eq, beq_iff_eq, bne_iff_ne]
  constructor
  · rintro ⟨hparent, _⟩
    by_contra hold
    rw [if_neg hold] at hparent
    exact h.new_not_mem (h.parents cs hcs row.id hparent)
  · intro hparent
    refine ⟨by rw [if_pos hparent], ?_⟩
    rintro rfl
    exact h.ascends.acyclic_iff_transGen.mp hacyclic cs.id (.single ⟨cs, hcs, rfl, hparent⟩)

end Succeeds
end Database
end CardBinder
