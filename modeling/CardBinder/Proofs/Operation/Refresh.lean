import CardBinder.Operation.Refresh
import CardBinder.Proofs.Catalog.Holdings
import CardBinder.Proofs.Database.Edits

/-! Replacing the catalog: the rows of the card sets stay, and every copy is made anew. -/

namespace CardBinder
variable {db db' loaded : Database} {catalog : Catalog}

namespace Restoration
open Database

theorem expansion_db (r : Restoration) (c : SavedCopy) : (r.expansion c).2.db = r.db := by
  rw [expansion]
  split
  · rfl
  · split <;> rfl

theorem expansion_known (r : Restoration) (c : SavedCopy) (hv : r.db.CatalogValid) :
    ∀ e ∈ (r.expansion c).1, r.db.HasEntry .expansion e := by
  intro e he
  rw [expansion] at he
  split at he
  · cases he
  · split at he
    · rename_i hf
      exact Option.some.inj he ▸ hv.hasEntry_findLookup hf
    · cases he

theorem nextCopyId_restore_le (saved : List SavedCopy) (r : Restoration) :
    r.db.nextCopyId ≤ (saved.foldl restore r).db.nextCopyId := by
  induction saved generalizing r with
  | nil => exact le_rfl
  | cons c saved ih =>
    refine le_trans ?_ (ih (r.restore c))
    rw [restore]
    split
    · exact le_rfl
    · simp only [addCopy_eq, addCopies, nextCopyId_printingFor, expansion_db]
      exact Nat.le_succ _

/-- Putting copies back makes copies of printings of the new catalog, and nothing else. -/
theorem edits_restore (hv : loaded.CatalogValid) (saved : List SavedCopy) :
    ∀ r : Restoration, ∀ {n}, Edits loaded.Knows loaded 0 n r.db →
      (saved.foldl restore r).db.nextCopyId < idBound →
      ∃ k, Edits loaded.Knows loaded 0 k (saved.foldl restore r).db := by
  induction saved with
  | nil =>
    intro r n h _
    exact ⟨n, h⟩
  | cons c saved ih =>
    intro r n h hfit
    rw [List.foldl_cons] at hfit ⊢
    have hhere := lt_of_le_of_lt (nextCopyId_restore_le saved (r.restore c)) hfit
    have hsame := h.sameCatalog
    have hv' := hv.of_same hsame
    cases hf : r.db.findCard c.card with
    | none => exact ih _ (by simpa [restore, hf] using h) hfit
    | some card =>
      have hknown : loaded.Knows card (r.expansion c).1 := by
        rw [← hsame.knows]
        exact ⟨hv'.hasCard_findCard hf, expansion_known r c hv'⟩
      refine ih _ (n := n + 1) ?_ hfit
      simp only [restore, hf, addCopy_eq, expansion_db] at hhere ⊢
      exact (h.printing hknown).newCopies (printingFor_mem _ _ _) hhere

end Restoration

namespace Database

/-- A replaced catalog is loaded as a whole, and then the copies are put back. -/
theorem replaceCatalog_ok {cards : Nat} {r : Restoration}
    (h : db.replaceCatalog catalog = .ok (db', cards, r)) :
    db.generation + 1 < generationBound ∧ (db.resetCatalog.loadCatalog catalog).2 = .ok cards ∧
      db'.nextCopyId < idBound ∧ db' = r.db ∧
      r = db.savedCopies.foldl Restoration.restore (.start (db.refilled catalog)) := by
  obtain ⟨_, hgeneration, h⟩ := Outcome.bind_ok (x := checkCounter _ _) h
  obtain ⟨cards', hload, h⟩ := Outcome.bind_ok h
  obtain ⟨_, hcopies, h⟩ := Outcome.bind_ok h
  obtain ⟨rfl, rfl, rfl⟩ := by simpa using Except.ok.inj h
  exact ⟨checkCounter_ok_iff.mp hgeneration, hload, checkCounter_ok_iff.mp hcopies, rfl, rfl⟩

theorem edits_replaceCatalog {cards : Nat} {r : Restoration}
    (h : db.replaceCatalog catalog = .ok (db', cards, r)) :
    ∃ n, Edits (db.refilled catalog).Knows (db.refilled catalog) 0 n db' := by
  obtain ⟨_, _, hcopies, rfl, rfl⟩ := replaceCatalog_ok h
  exact Restoration.edits_restore (catalogValid_refilled db catalog) db.savedCopies
    (.start (db.refilled catalog)) .none hcopies

/-- With another catalog and without contents, the rest of a database is still in order. -/
theorem Orderly.emptied (ho : db.Orderly) (hv : loaded.CatalogValid)
    (hprintings : loaded.printings = []) (hcopies : loaded.copies = [])
    (hsets : loaded.cardSets = db.cardSets) (hnextSet : loaded.nextCardSetId = db.nextCardSetId)
    (hnextCopy : loaded.nextCopyId = db.nextCopyId) : loaded.Orderly where
  toCatalogValid := hv
  printings := hprintings ▸ numbered_nil
  printingsOnce := hprintings ▸ List.nodup_nil
  printingsKnown p hp := by
    rw [hprintings] at hp
    cases hp
  cardSets := by
    rw [hsets, hnextSet]
    exact ho.cardSets
  cardSetsFit := hnextSet ▸ ho.cardSetsFit
  names := hsets ▸ ho.names
  copies := hcopies ▸ inOrder_nil
  copiesFit := hnextCopy ▸ ho.copiesFit

end Database
end CardBinder
