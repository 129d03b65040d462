import CardBinder.Listing
import CardBinder.Proofs.Forest.Parents
import Mathlib.Data.List.Sort
import Mathlib.Data.String.Basic

/-! Sets that hang from a root: the way up from each is one chain of different sets, wherever the parents
of other sets lead. -/

namespace CardBinder.Database
variable {db : Database} {cs p : CardSet} {id x : CardSetId} {above above' : List CardSetId}
  {parent : Option CardSetId} {sets sets' : List CardSet}

/-- The way up from a set comes to a set without a parent. -/
def Rooted (db : Database) (id : CardSetId) : Prop :=
  ∃ root ∈ db.cardSets, root.parent = none ∧ Relation.ReflTransGen db.ParentLink id root.id

/-- The sets on the way up from a set to a root, the nearest first. -/
inductive Hangs (db : Database) : List CardSetId → CardSet → Prop
  | root {cs : CardSet} : cs ∈ db.cardSets → cs.parent = none → Hangs db [] cs
  | child {above : List CardSetId} {p cs : CardSet} : Hangs db above p → cs ∈ db.cardSets →
      cs.parent = some p.id → Hangs db (p.id :: above) cs

theorem Hangs.mem (hh : db.Hangs above cs) : cs ∈ db.cardSets := by
  cases hh <;> assumption

theorem Hangs.above_mem (hh : db.Hangs above cs) : above ⊆ db.cardSets.map (·.id) := by
  induction hh with
  | root => exact List.nil_subset _
  | child hp _ _ ih => exact List.cons_subset.mpr ⟨List.mem_map_of_mem hp.mem, ih⟩

section Ascending
variable (h : db.SetsAscend)
include h

theorem SetsAscend.parentLink_iff (hcs : cs ∈ db.cardSets) :
    db.ParentLink cs.id x ↔ cs.parent = some x := by
  constructor
  · rintro ⟨row, hrow, hid, hparent⟩
    rwa [← h.eq_of_id hrow hcs hid]
  · exact fun hparent => ⟨cs, hcs, rfl, hparent⟩

/-- The first step up is to the parent. -/
theorem SetsAscend.transGen_iff_parent (hcs : cs ∈ db.cardSets) :
    Relation.TransGen db.ParentLink cs.id x ↔
      ∃ y, cs.parent = some y ∧ Relation.ReflTransGen db.ParentLink y x := by
  simp only [Relation.TransGen.head'_iff, h.parentLink_iff hcs]

/-- The sets on the way up are the ancestors. -/
theorem Hangs.mem_above_iff (hh : db.Hangs above cs) :
    x ∈ above ↔ Relation.TransGen db.ParentLink cs.id x := by
  induction hh with
  | root hcs hnone => simp [h.transGen_iff_parent hcs, hnone]
  | child hp hcs hparent ih =>
    rw [h.transGen_iff_parent hcs, hparent, List.mem_cons, ih]
    simp only [Option.some.injEq, exists_eq_left', Relation.reflTransGen_iff_eq_or_transGen]

theorem Hangs.not_mem_above (hh : db.Hangs above cs) : cs.id ∉ above := by
  rw [hh.mem_above_iff h]
  induction hh with
  | root hcs hnone => simp [h.transGen_iff_parent hcs, hnone]
  | @child above p cs hp hcs hparent ih =>
    intro hself
    obtain ⟨y, hy, hback⟩ := (h.transGen_iff_parent hcs).mp hself
    obtain rfl := Option.some.inj (hparent.symm.trans hy)
    exact ih (.tail' hback ((h.parentLink_iff hcs).mpr hparent))

theorem Hangs.nodup (hh : db.Hangs above cs) : (cs.id :: above).Nodup := by
  refine List.nodup_cons.mpr ⟨hh.not_mem_above h, ?_⟩
  induction hh with
  | root => exact List.nodup_nil
  | child hp _ _ ih => exact List.nodup_cons.mpr ⟨hp.not_mem_above h, ih⟩

/-- There are fewer ancestors than card sets. -/
theorem Hangs.length_lt (hh : db.Hangs above cs) : above.length < db.cardSets.length := by
  have hsub : cs.id :: above ⊆ db.cardSets.map (·.id) :=
    List.cons_subset.mpr ⟨List.mem_map_of_mem hh.mem, hh.above_mem⟩
  have hlength := (List.subperm_of_subset (hh.nodup h) hsub).length_le
  rwa [List.length_cons, List.length_map] at hlength

theorem Hangs.unique (hh : db.Hangs above cs) (hh' : db.Hangs above' cs) : above = above' := by
  induction hh generalizing above' with
  | root _ hnone =>
    cases hh' with
    | root => rfl
    | child _ _ hparent => cases hnone.symm.trans hparent
  | child hp _ hparent ih =>
    cases hh' with
    | root _ hnone => cases hnone.symm.trans hparent
    | child hp' _ hparent' =>
      have hid := Option.some.inj (hparent.symm.trans hparent')
      obtain rfl := h.eq_of_id hp.mem hp'.mem hid
      rw [ih hp']

/-- What is above a set hangs from the same root, nearer to it. -/
theorem Hangs.exists_of_mem (hh : db.Hangs above cs) (hp : p ∈ db.cardSets) (hmem : p.id ∈ above) :
    ∃ above', db.Hangs above' p ∧ above'.length < above.length := by
  induction hh with
  | root => cases hmem
  | @child above q cs hq _ _ ih =>
    rcases List.mem_cons.mp hmem with hid | hmem
    · obtain rfl := h.eq_of_id hp hq.mem hid
      exact ⟨above, hq, Nat.lt_succ_self _⟩
    · obtain ⟨above', hh', hlt⟩ := ih hmem
      exact ⟨above', hh', Nat.lt_succ_of_lt hlt⟩

end Ascending

/-! Sets with the same parent -/

/-- All sets with the parent, or all sets without one, by name. -/
structure Siblings (db : Database) (parent : Option CardSetId) (sets : List CardSet) : Prop where
  mem : ∀ cs, cs ∈ sets ↔ cs ∈ db.cardSets ∧ cs.parent = parent
  ascend : sets.Pairwise fun a b => a.name < b.name

theorem Siblings.nodup (hs : db.Siblings parent sets) : sets.Nodup := by
  refine hs.ascend.imp ?_
  rintro a b hlt rfl
  exact lt_irrefl _ hlt

/-- There is one such list. -/
theorem Siblings.unique (hs : db.Siblings parent sets) (hs' : db.Siblings parent sets') :
    sets = sets' := by
  refine List.Perm.eq_of_pairwise (fun a b _ _ hlt hgt => absurd hgt (lt_asymm hlt)) hs.ascend
    hs'.ascend ((List.perm_ext_iff_of_nodup hs.nodup hs'.nodup).mpr fun cs => ?_)
  rw [hs.mem, hs'.mem]

theorem pairwise_sorted {r : String → String → Prop} [DecidableRel r] [Std.Total r]
    [IsTrans String r] (rows : List CardSet) :
    (rows.mergeSort fun a b => decide (r a.name b.name)).Pairwise fun a b => r a.name b.name := by
  refine List.Pairwise.imp of_decide_eq_true (List.pairwise_mergeSort ?_ ?_ rows)
  · intro a b c hab hbc
    exact decide_eq_true (trans_of r (of_decide_eq_true hab) (of_decide_eq_true hbc))
  · intro a b
    simpa using total_of r a.name b.name

section Names
variable (hnames : (db.cardSets.map (·.name)).Nodup)
include hnames

/-- Rows in the order of their names ascend, since all names are different. -/
theorem ascend_of_sorted {rows : List CardSet} (hrows : rows.Sublist db.cardSets)
    (hperm : sets.Perm rows) (hsorted : sets.Pairwise fun a b => a.name ≤ b.name) :
    sets.Pairwise fun a b => a.name < b.name := by
  have hnodup : (sets.map (·.name)).Nodup :=
    (hperm.map _).nodup_iff.mpr (hnames.sublist (hrows.map _))
  exact (hsorted.and (List.pairwise_map.mp hnodup)).imp fun h => lt_of_le_of_ne h.1 h.2

theorem siblings_rootSets : db.Siblings none db.rootSets where
  mem cs := by
    rw [rootSets, List.mem_mergeSort, List.mem_filter, Option.isNone_iff_eq_none]
  ascend := ascend_of_sorted hnames List.filter_sublist (List.mergeSort_perm _ _)
    (pairwise_sorted (r := (· ≤ ·)) _)

theorem siblings_sortedChildren (h : db.SetsAscend) (id : CardSetId) :
    db.Siblings (some id) (db.sortedChildren id) := by
  have hrows : (db.children id).filterMap db.cardSet? =
      db.cardSets.filter (·.parent == some id) := by
    have hrow : ∀ cs ∈ db.cardSets.filter (·.parent == some id), db.cardSet? cs.id = some cs :=
      fun cs hcs => h.cardSet?_eq_some_iff.mpr ⟨(List.mem_filter.mp hcs).1, rfl⟩
    rw [children, List.filterMap_map]
    exact (List.filterMap_congr hrow).trans List.filterMap_some
  have hperm := List.mergeSort_perm (db.cardSets.filter (·.parent == some id)) fun a b =>
    decide (b.name ≤ a.name)
  rw [sortedChildren, hrows]
  constructor
  case mem =>
    intro cs
    rw [List.mem_reverse, List.mem_mergeSort, List.mem_filter, beq_iff_eq]
  case ascend =>
    exact ascend_of_sorted hnames List.filter_sublist ((List.reverse_perm _).trans hperm)
      (List.pairwise_reverse.mpr (pairwise_sorted (r := (· ≥ ·)) _))

end Names

end CardBinder.Database
