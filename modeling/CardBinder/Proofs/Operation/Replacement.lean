import CardBinder.Operation.Import
import CardBinder.Proofs.Forest.Parents
import CardBinder.Proofs.Holder.Insertion

/-! A prepared set takes the place of an old one, with its children. -/

namespace CardBinder

/-- A prepared set that would hang below the set it replaces hangs where that one does. -/
def PreparedSet.inPlaceOf (p : PreparedSet) (old : CardSet) : PreparedSet :=
  { p with draft := if p.draft.parent = some old.id then { p.draft with parent := old.parent }
    else p.draft }

namespace Database
variable {db : Database} {old : CardSet} {p : PreparedSet}

/-- The database without a card set and its copies. -/
def without (db : Database) (id : CardSetId) : Database :=
  { db with
    cardSets := db.cardSets.filter (·.id != id)
    copies := db.copies.filter (·.cardSet != id) }

theorem SetsAscend.without (h : db.SetsAscend) (id : CardSetId) : (db.without id).SetsAscend :=
  h.sublist List.filter_sublist

theorem SetsAscend.removeCardSet_eq (h : db.SetsAscend) (hold : old ∈ db.cardSets) :
    db.removeCardSet old.id = some (db.without old.id, old) := by
  obtain ⟨next, ho⟩ := exists_inOrder h
  obtain ⟨i, hi⟩ := List.mem_iff_getElem?.mp hold
  have hplace := (place?_eq_some_iff ho).mpr ⟨old, hi, rfl⟩
  obtain ⟨hlt, hget⟩ := List.getElem?_eq_some_iff.mp hi
  have hnodup : db.cardSets.Nodup := h.nodup_ids.of_map _
  have hothers : db.cardSets.filter (· != old) = db.cardSets.filter (·.id != old.id) := by
    refine List.filter_congr fun cs hcs => ?_
    rw [Bool.eq_iff_iff, bne_iff_ne, bne_iff_ne]
    exact not_congr ⟨congrArg CardSet.id, h.eq_of_id hcs hold⟩
  have herase : db.cardSets.eraseIdx i = db.cardSets.filter (·.id != old.id) := by
    rw [← hnodup.erase_getElem i hlt, hget, hnodup.erase_eq_filter, hothers]
  rw [removeCardSet, hplace]
  simp only [Option.bind_eq_bind, Option.bind_some, hi, herase]
  rfl

/-- The database with a prepared set in the place of an old one. -/
def replaced (db : Database) (old : CardSet) (p : PreparedSet) : Database :=
  { p.written (db.without old.id) with
    cardSets := succeed old.id (p.draft.toCardSet ⟨db.nextCardSetId⟩) db.cardSets }

section Valid
variable (hv : db.Valid) (hold : old ∈ db.cardSets)
include hv

/-- Taking over the children of the old set is all that is left to do once the new one is written. -/
theorem Valid.replaced_eq (old : CardSet) (p : PreparedSet) :
    (db.children old.id).foldl (fun db' child => db'.setParent child (some ⟨db.nextCardSetId⟩))
      (p.written (db.without old.id)) = db.replaced old p := by
  obtain ⟨row, hrow⟩ : ∃ row, row = p.draft.toCardSet ⟨db.nextCardSetId⟩ := ⟨_, rfl⟩
  have hid : row.id = ⟨db.nextCardSetId⟩ := by rw [hrow]; rfl
  have hrows : (p.written (db.without old.id)).cardSets =
      db.cardSets.filter (·.id != old.id) ++ [row] := by
    have hn : Numbered (·.id.val) (db.without old.id).printings := hv.printings
    rw [hrow]
    exact p.cardSets_written hn
  have hascends : (p.written (db.without old.id)).SetsAscend := by
    rw [SetsAscend, hrows]
    refine List.pairwise_append.mpr ⟨hv.setsAscend.without old.id, List.pairwise_singleton _ _, ?_⟩
    intro cs hcs new hnew
    rw [List.mem_singleton.mp hnew, hid]
    exact hv.cardSets.below cs (List.mem_of_mem_filter hcs)
  have hnew : row.id ∉ db.children old.id := by
    intro hchild
    obtain ⟨cs, hcs, heq⟩ := List.mem_map.mp hchild
    exact hv.fresh cs (List.mem_of_mem_filter hcs) (heq.trans hid)
  rw [hascends.foldl_setParent, withParent, replaced, ← hrow]
  refine congrArg (fun rows => { p.written (db.without old.id) with cardSets := rows }) ?_
  simp only [List.contains_iff_mem]
  rw [hrows, succeed, hid, List.map_append, List.map_singleton, if_neg hnew]
  refine congrArg (· ++ [row]) (List.map_congr_left fun cs hcs => ?_)
  simp only [hv.setsAscend.mem_children_iff (List.mem_of_mem_filter hcs)]

theorem Valid.succeeds_replaced
    (hparent : ∀ x ∈ p.draft.parent, x ≠ old.id ∧ ∃ cs ∈ db.cardSets, cs.id = x) :
    Succeeds db (db.replaced old p) old.id (p.draft.toCardSet ⟨db.nextCardSetId⟩) where
  rows := rfl
  ascends := hv.setsAscend
  last := hv.cardSets.below
  parents := hv.parent_mem
  parent x hx := ⟨(hparent x hx).1, List.mem_map.mpr (hparent x hx).2⟩

theorem Valid.filled_replaced (old : CardSet) (p : PreparedSet) :
    ((db.without old.id).withSet p.draft).Filled ⟨db.nextCardSetId⟩ p.copies
      (p.written (db.without old.id)) := by
  have hn : Numbered (·.id.val) (db.without old.id).printings := hv.printings
  exact p.filled_written hn

theorem Valid.sameCatalog_replaced (old : CardSet) (p : PreparedSet) :
    db.SameCatalog (db.replaced old p) := by
  rw [replaced, (hv.filled_replaced old p).rest]
  exact ⟨rfl, rfl, rfl, rfl, rfl, rfl⟩

/-- The copies in the old set go, and those of the new one come. -/
theorem Valid.copies_replaced (old : CardSet) (p : PreparedSet) :
    ∃ new, (db.replaced old p).copies = db.copies.filter (·.cardSet != old.id) ++ new ∧
      ∀ c ∈ new, c.cardSet = ⟨db.nextCardSetId⟩ :=
  (hv.filled_replaced old p).copies_eq

theorem Valid.holding?_replaced (old : CardSet) (p : PreparedSet) {c : Copy}
    (hc : c ∈ db.copies) : (db.replaced old p).holding? c = db.holding? c :=
  (hv.filled_replaced old p).holding?_eq (hv.copyPrintings c hc)

/-- The check before saving passes when the new set is on no loop. -/
theorem Valid.validate_replaced
    (hparent : ∀ x ∈ p.draft.parent, x ≠ old.id ∧ ∃ cs ∈ db.cardSets, cs.id = x)
    (hloop : (db.replaced old p).onLoop ⟨db.nextCardSetId⟩ = false) :
    (db.replaced old p).validate = .ok () := by
  have hfilled := hv.filled_replaced old p
  obtain ⟨printings, hprintings, _⟩ := hfilled.printings
  refine (hv.succeeds_replaced hparent).validate hv.toReferential hloop ⟨printings, hprintings⟩ ?_
  intro c hc
  refine (hfilled.copy_cases hc).imp_left fun hc => ?_
  obtain ⟨hmem, hne⟩ := List.mem_filter.mp hc
  exact ⟨hmem, by simpa using hne⟩

include hold

theorem Valid.inPlaceOf_parent (hparent : ∀ x ∈ p.draft.parent, ∃ cs ∈ db.cardSets, cs.id = x) :
    ∀ x ∈ (p.inPlaceOf old).draft.parent, x ≠ old.id ∧ ∃ cs ∈ db.cardSets, cs.id = x := by
  intro x hx
  rw [PreparedSet.inPlaceOf] at hx
  simp only at hx
  split at hx
  · refine ⟨?_, hv.parents old hold x hx⟩
    rintro rfl
    exact hv.setsAscend.acyclic_iff_transGen.mp hv.acyclic old.id (.single ⟨old, hold, rfl, hx⟩)
  · rename_i hother
    refine ⟨?_, hparent x hx⟩
    rintro rfl
    exact hother hx

/-- The new set comes to be on a loop when its parent was a set below the old one. -/
theorem Valid.onLoop_replaced_iff
    (hparent : ∀ x ∈ p.draft.parent, ∃ cs ∈ db.cardSets, cs.id = x) :
    (db.replaced old (p.inPlaceOf old)).onLoop ⟨db.nextCardSetId⟩ = true ↔
      ∃ x ∈ p.draft.parent, Relation.TransGen db.ParentLink x old.id := by
  have hnone := hv.setsAscend.acyclic_iff_transGen.mp hv.acyclic old.id
  refine (hv.succeeds_replaced (hv.inPlaceOf_parent hold hparent)).onLoop_iff.trans ?_
  by_cases hsame : p.draft.parent = some old.id
  · have hdraft : ((p.inPlaceOf old).draft.toCardSet ⟨db.nextCardSetId⟩).parent = old.parent := by
      rw [PreparedSet.inPlaceOf, if_pos hsame]
      rfl
    rw [hdraft, hsame]
    constructor
    · rintro ⟨x, hx, hway⟩
      exact absurd (.head ⟨old, hold, rfl, hx⟩ hway) hnone
    · rintro ⟨x, hx, hway⟩
      exact absurd (Option.some.inj hx ▸ hway) hnone
  · have hdraft : ((p.inPlaceOf old).draft.toCardSet ⟨db.nextCardSetId⟩).parent =
        p.draft.parent := by
      rw [PreparedSet.inPlaceOf, if_neg hsame]
      rfl
    rw [hdraft]

/-- A set is replaced unless there are no numbers for the new one or it comes to be below itself. -/
theorem Valid.replaceSet_eq (hname : p.draft.name = old.name)
    (hparent : ∀ x ∈ p.draft.parent, ∃ cs ∈ db.cardSets, cs.id = x) {db' : Database}
    (hdb' : db' = db.replaced old (p.inPlaceOf old)) :
    db.replaceSet old.id p = if ¬ db.HasNumbers 1 p.total then .error .outOfNumbers
      else if db'.onLoop ⟨db.nextCardSetId⟩ then
        .error (.loopIntroduced old.name
          (((p.inPlaceOf old).draft.parent.map db'.cardSetName).getD "")
          (db'.loopNames ⟨db.nextCardSetId⟩))
      else .ok (db', ⟨db.nextCardSetId⟩) := by
  obtain ⟨q, hq⟩ : ∃ q, q = p.inPlaceOf old := ⟨_, rfl⟩
  have hplaced := hv.inPlaceOf_parent hold hparent
  have hname' : q.draft.name = old.name := by
    rw [hq, PreparedSet.inPlaceOf]
    simp only
    split <;> exact hname
  rw [← hq] at hdb' hplaced ⊢
  have hfree : (db.without old.id).findCardSet q.draft.name = none := by
    refine Option.map_eq_none_iff.mpr (List.find?_eq_none.mpr fun cs hcs heq => ?_)
    obtain ⟨hcs, hne⟩ := List.mem_filter.mp hcs
    have hsame := List.inj_on_of_nodup_map hv.names hcs hold (hname' ▸ beq_iff_eq.mp heq)
    simp [hsame] at hne
  have hthere : ∀ x ∈ q.draft.parent, ((db.without old.id).cardSet? x).isSome := by
    intro x hx
    obtain ⟨hne, cs, hcs, rfl⟩ := hplaced x hx
    have hkept : cs ∈ (db.without old.id).cardSets := List.mem_filter.mpr ⟨hcs, by simpa using hne⟩
    rw [(hv.setsAscend.without old.id).cardSet?_eq_some_iff.mpr ⟨hkept, rfl⟩]
    rfl
  have hascends : db'.SetsAscend := hdb' ▸ (hv.succeeds_replaced hplaced).ascends'
  have hmem : q.draft.toCardSet ⟨db.nextCardSetId⟩ ∈ db'.cardSets :=
    hdb' ▸ List.mem_append_right _ (List.mem_singleton_self _)
  have hnew : db'.getCardSet ⟨db.nextCardSetId⟩ = .ok (q.draft.toCardSet ⟨db.nextCardSetId⟩) :=
    hascends.getCardSet hmem
  have hnamed : db'.cardSetName ⟨db.nextCardSetId⟩ = old.name :=
    (hascends.cardSetName hmem).trans hname'
  have hnext : (db.without old.id).nextCardSetId = db.nextCardSetId := rfl
  have hchildren := (hv.replaced_eq old q).trans hdb'.symm
  rw [replaceSet, hv.setsAscend.getCardSet hold, hv.setsAscend.removeCardSet_eq hold]
  change ((p.inPlaceOf old).insert (db.without old.id) >>= _) = _
  rw [← hq, PreparedSet.insert_eq hfree hthere]
  have htotal : q.total = p.total := by rw [hq]; rfl
  have hcounters : (db.without old.id).HasNumbers 1 q.total ↔ db.HasNumbers 1 p.total := by
    rw [htotal]
    rfl
  by_cases hnumbers : db.HasNumbers 1 p.total
  · rw [if_pos (hcounters.mpr hnumbers), if_neg (not_not.mpr hnumbers)]
    simp only [bind, Except.bind, hchildren, hnext, hnew, hnamed]
    rfl
  · rw [if_neg (mt hcounters.mp hnumbers), if_pos hnumbers]
    rfl

end Valid
end Database
end CardBinder
