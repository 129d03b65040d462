import CardBinder.Operation.Removal
import CardBinder.Proofs.Operation.Hierarchy
import CardBinder.Proofs.Operation.Moves
import CardBinder.Proofs.Operation.Replacement
import CardBinder.Proofs.Store

/-! A set that is deleted goes with its copies, and leaves its children at the top level. -/

namespace CardBinder

/-- The row of a set when another one goes: a child of that one comes to the top level. -/
def CardSet.leaving (cs : CardSet) (id : CardSetId) : CardSet :=
  if cs.parent = some id then { cs with parent := none } else cs

namespace Database
variable {db : Database} {row cs : CardSet} {id x y : CardSetId}

/-- The children of a set once they are at the top level. -/
def detached (db : Database) (id : CardSetId) : List CardSet :=
  (db.cardSets.filter (·.parent == some id)).map ({ · with parent := none })

/-- The database without a set and its copies, and with its children at the top level. -/
def deleted (db : Database) (id : CardSetId) : Database :=
  { db with
    cardSets := (db.cardSets.filter (·.id != id)).map (·.leaving id)
    copies := db.copies.filter (·.cardSet != id) }

theorem leaving_id (cs : CardSet) (id : CardSetId) : (cs.leaving id).id = cs.id := by
  rw [CardSet.leaving]
  split <;> rfl

/-- A set that is left has the parent it had, which is not the set that went. -/
theorem parent_leaving {p : CardSetId} :
    (cs.leaving id).parent = some p ↔ cs.parent = some p ∧ p ≠ id := by
  rw [CardSet.leaving]
  split <;> rename_i hparent
  · simp only [reduceCtorEq, hparent, Option.some.injEq, false_iff, not_and, not_not]
    exact Eq.symm
  · refine ⟨fun h => ⟨h, ?_⟩, And.left⟩
    rintro rfl
    exact hparent h

theorem SetsAscend.detach_eq (h : db.SetsAscend) (id : CardSetId) :
    db.detach (db.children id) = (db.withParent (db.children id) none, db.detached id) := by
  rw [detach, h.foldl_setParent]
  refine Prod.ext rfl ?_
  simp only [children, List.filterMap_map]
  refine (List.filterMap_congr (g := some ∘ ({ · with parent := none })) fun cs hcs => ?_).trans
    (congrFun List.filterMap_eq_map _)
  have hmoved : { cs with parent := none } ∈ (db.withParent (db.children id) none).cardSets :=
    mem_withParent.mpr ⟨cs, List.mem_of_mem_filter hcs, if_pos (List.mem_map_of_mem hcs)⟩
  exact (h.withParent _ none).cardSet?_eq_some_iff.mpr ⟨hmoved, rfl⟩

theorem SetsAscend.without_withParent (h : db.SetsAscend) (id : CardSetId) :
    (db.withParent (db.children id) none).without id = db.deleted id := by
  rw [h.withParent_children, Database.without, deleted]
  refine congrArg (fun rows => { db with
    cardSets := rows, copies := db.copies.filter (·.cardSet != id) }) ?_
  change (db.cardSets.map (·.leaving id)).filter (·.id != id) = _
  rw [List.filter_map]
  refine congrArg (List.map _) (List.filter_congr fun cs _ => ?_)
  rw [Function.comp_apply, leaving_id]

section Valid
variable (hv : db.Valid) (hrow : row ∈ db.cardSets)
include hv hrow

/-- No set is its own child, so that the row that is dropped is the one that was there. -/
theorem Valid.deleteSet_eq :
    db.deleteSet row.id = .ok (db.deleted row.id, row, db.detached row.id) := by
  have hasc := hv.setsAscend
  have hkept : row ∈ (db.withParent (db.children row.id) none).cardSets := by
    refine mem_withParent.mpr ⟨row, hrow, if_neg fun hchild => ?_⟩
    have hloop := (hasc.mem_children_iff hrow).mp hchild
    exact hasc.acyclic_iff_transGen.mp hv.acyclic row.id (.single ⟨row, hrow, rfl, hloop⟩)
  have hremove := (hasc.withParent (db.children row.id) none).removeCardSet_eq hkept
  rw [hasc.without_withParent] at hremove
  rw [deleteSet, hasc.getCardSet hrow]
  simp only [bind, Except.bind, hasc.detach_eq, hremove]
  rfl

end Valid

/-- The sets that are left hang where they did, but for the children of the set that went. -/
theorem link_deleted (hlink : (db.deleted id).ParentLink x y) : db.ParentLink x y := by
  obtain ⟨cs, hcs, hid, hparent⟩ := hlink
  obtain ⟨before, hbefore, rfl⟩ := List.mem_map.mp hcs
  exact ⟨before, List.mem_of_mem_filter hbefore, (leaving_id before id).symm.trans hid,
    (parent_leaving.mp hparent).1⟩

theorem Valid.deleted (hv : db.Valid) (hrow : row ∈ db.cardSets) :
    (db.deleted row.id).Valid := by
  have hordered : (db.deleted row.id).Orderly :=
    (edits_deleteSet (hv.deleteSet_eq hrow)).orderly hv.toOrderly
  have hleft : ∀ {p}, p ≠ row.id → (∃ cs ∈ db.cardSets, cs.id = p) →
      ∃ cs ∈ (db.deleted row.id).cardSets, cs.id = p := by
    rintro p hne ⟨cs, hcs, rfl⟩
    exact ⟨cs.leaving row.id, List.mem_map_of_mem (List.mem_filter.mpr ⟨hcs, by simpa using hne⟩),
      leaving_id cs row.id⟩
  refine ⟨hordered, ?_, ?_, ?_, ?_⟩
  · intro cs hcs p hp
    obtain ⟨before, hbefore, rfl⟩ := List.mem_map.mp hcs
    obtain ⟨hparent, hne⟩ := parent_leaving.mp hp
    exact hleft hne (hv.parents before (List.mem_of_mem_filter hbefore) p hparent)
  · refine hordered.setsAscend.acyclic_iff_transGen.mpr fun x hloop => ?_
    exact hv.setsAscend.acyclic_iff_transGen.mp hv.acyclic x
      (Relation.TransGen.mono (fun _ _ hlink => link_deleted hlink) x x hloop)
  · intro c hc
    obtain ⟨hmem, hne⟩ := List.mem_filter.mp hc
    exact hleft (by simpa using hne) (hv.copySets c hmem)
  · intro c hc
    exact hv.copyPrintings c (List.mem_of_mem_filter hc)

/-! A set that nothing is lost with -/

/-- What goes or is left behind when a set is deleted. -/
def losses (db : Database) (row : CardSet) : DeleteCheck :=
  ⟨row.name, db.cardCount row.id, (db.children row.id).map db.cardSetName⟩

theorem checkDelete_eq (hget : db.getCardSet row.id = .ok row) :
    db.checkDelete row.id = .ok (db.losses row) := by
  rw [checkDelete, hget]
  rfl

/-- The check is clean for a set without copies and children. -/
theorem isClean_losses : (db.losses row).isClean = true ↔
    (∀ c ∈ db.copies, c.cardSet ≠ row.id) ∧ ∀ cs ∈ db.cardSets, cs.parent ≠ some row.id := by
  simp [losses, DeleteCheck.isClean, cardCount, children, List.countP_eq_zero,
    List.filter_eq_nil_iff]

/-- With such a set nothing goes but its own row. -/
theorem deleted_of_clean (hcopies : ∀ c ∈ db.copies, c.cardSet ≠ id)
    (hchildren : ∀ cs ∈ db.cardSets, cs.parent ≠ some id) :
    db.deleted id = { db with cardSets := db.cardSets.filter (·.id != id) } ∧
      db.detached id = [] := by
  have hkept : db.copies.filter (·.cardSet != id) = db.copies :=
    List.filter_eq_self.mpr fun c hc => by simpa using hcopies c hc
  have hsame : (db.cardSets.filter (·.id != id)).map (·.leaving id) =
      db.cardSets.filter (·.id != id) := by
    refine (List.map_congr_left fun cs hcs => ?_).trans (List.map_id _)
    exact if_neg (hchildren cs (List.mem_of_mem_filter hcs))
  refine ⟨by rw [deleted, hkept, hsame], ?_⟩
  rw [detached, List.map_eq_nil_iff, List.filter_eq_nil_iff]
  intro cs hcs
  simpa using hchildren cs hcs

end Database

namespace Work
variable {s : Store} {row : CardSet}

/-- What is said about a deletion: the set that went, and a warning for each former child. -/
def deletionReport (db : Database) (row : CardSet) : Report where
  affected := db.detached row.id
  messages := ⟨.success, "Card set deleted: " ++ row.name⟩ ::
    (db.detached row.id).map fun cs => ⟨.warning, cs.name ++ " is now a top-level card set"⟩

/-- How deleting a set ends. -/
structure Deletes (s : Store) (row : CardSet) (r : Outcome Report) (s' : Store) : Prop where
  done : r = .ok (deletionReport s.db row)
  saved : s' = s.saving { s.db with
    cardSets := (s.db.cardSets.filter (·.id != row.id)).map fun cs =>
      if cs.parent = some row.id then { cs with parent := none } else cs
    copies := s.db.copies.filter (·.cardSet != row.id) }
  forest : s'.db.Acyclic
  valid : s'.db.Valid

/-- A set that is there is deleted, whatever is in it and whatever hangs below it. -/
theorem deleteSet_deletes (hv : s.db.Valid) (hsave : s.failing = false)
    (hrow : row ∈ s.db.cardSets) : Ends (deleteSet row.id) s (Deletes s row) := by
  have hv' := hv.deleted hrow
  have hattempt : s.attempt (·.deleteSet row.id) =
      .ok (s.saving (s.db.deleted row.id), row, s.db.detached row.id) :=
    Store.attempt_of_ok (hv.deleteSet_eq hrow) ⟨hv'.toReferential.validate hv'.cardSets, hsave⟩
  refine (ends_transaction_of_ok hattempt).bind_ok ⟨?_, rfl, hv'.acyclic, hv'⟩
  simp only
  rw [Report.foldl_warning (fun cs : CardSet => cs.name ++ " is now a top-level card set")]
  rfl

end Work
end CardBinder
