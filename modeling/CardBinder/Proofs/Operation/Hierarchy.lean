import CardBinder.Operation.Moves
import CardBinder.Operation.Removal
import CardBinder.Proofs.Database.Edits

/-! Moving, deleting and repairing card sets only changes parents and drops rows. -/

namespace CardBinder.Database
variable {db db₁ db₂ : Database} {K : CardId → Option LookupId → Prop} {m n : Nat}
  {set source : CardSetId} {parent : Option CardSetId}

theorem moveSet_ok (h : db₁.moveSet set parent = .ok db₂) :
    (∀ p ∈ parent, ∃ cs ∈ db₁.cardSets, cs.id = p) ∧ db₂ = db₁.setParent set parent := by
  have hmove : ∀ {db₂}, (do
      let _ ← db₁.getCardSet set
      let db := db₁.setParent set parent
      if db.onLoop set then
        throw (.loopIntroduced (db.cardSetName set) (db.nameOrBlank parent) (db.loopNames set))
      return db) = Except.ok (ε := Failure) db₂ → db₂ = db₁.setParent set parent := by
    intro db₂ h
    obtain ⟨_, _, h⟩ := Outcome.bind_ok (x := db₁.getCardSet set) h
    simp only at h
    split at h
    · cases h
    · exact (Except.ok.inj h).symm
  unfold moveSet at h
  cases parent with
  | none => exact ⟨by simp, hmove h⟩
  | some p =>
    obtain ⟨cs, hcs, h⟩ := Outcome.bind_ok (x := db₁.getCardSet p) h
    exact ⟨by simpa using ⟨cs, getCardSet_ok hcs⟩, hmove h⟩

theorem Edits.moveSet (h : Edits K db m n db₁) (hm : db₁.moveSet set parent = .ok db₂) :
    Edits K db m n db₂ := by
  obtain ⟨hparent, rfl⟩ := moveSet_ok hm
  exact h.parent hparent

theorem Edits.moveSets {sets : List CardSetId} (h : Edits K db m n db₁)
    (hm : db₁.moveSets sets parent = .ok db₂) : Edits K db m n db₂ := by
  induction sets generalizing db₁ with
  | nil => exact Except.ok.inj hm ▸ h
  | cons set sets ih =>
    rw [Database.moveSets, List.foldlM_cons] at hm
    obtain ⟨db', hset, hm⟩ := Outcome.bind_ok hm
    exact ih (h.moveSet hset) hm

theorem edits_moveOne {cs : CardSet} (h : db.moveOne set parent = .ok (db₁, cs)) :
    Edits K db 0 0 db₁ := by
  obtain ⟨db', hm, h⟩ := Outcome.bind_ok h
  obtain ⟨row, _, h⟩ := Outcome.bind_ok (x := db'.getCardSet set) h
  obtain ⟨rfl, rfl⟩ := Prod.mk.inj (Except.ok.inj h)
  exact Edits.none.moveSet hm

theorem edits_moveChildren {moved : List CardSet}
    (h : db.moveChildren source parent = .ok (db₁, moved)) : Edits K db 0 0 db₁ := by
  obtain ⟨_, _, h⟩ := Outcome.bind_ok (x := db.getCardSet source) h
  obtain ⟨db', hm, h⟩ := Outcome.bind_ok (x := db.moveSets (db.children source) parent) h
  obtain ⟨rows, _, h⟩ := Outcome.bind_ok (x := (db.children source).mapM db'.getCardSet) h
  obtain ⟨rfl, rfl⟩ := Prod.mk.inj (Except.ok.inj h)
  exact Edits.none.moveSets hm

/-- Giving one parent, or none, to many sets. -/
theorem Edits.parents (h : Edits K db m n db₁) (parent : Option CardSetId)
    (hp : ∀ p ∈ parent, ∃ cs ∈ db₁.cardSets, cs.id = p) (sets : List CardSetId) :
    Edits K db m n (sets.foldl (fun db set => db.setParent set parent) db₁) := by
  induction sets generalizing db₁ with
  | nil => exact h
  | cons set sets ih =>
    exact ih (h.parent hp) fun p hp' => exists_set_of_ids (setParent_ids _ _ _) (hp p hp')

theorem edits_deleteSet {cs : CardSet} {detached : List CardSet}
    (h : db.deleteSet set = .ok (db₁, cs, detached)) : Edits K db 0 0 db₁ := by
  obtain ⟨_, _, h⟩ := Outcome.bind_ok (x := db.getCardSet set) h
  have hparents : Edits K db 0 0 (db.detach (db.children set)).1 :=
    Edits.none.parents none (by simp) _
  generalize hr : (db.detach (db.children set)).1.removeCardSet set = removed at h
  cases removed with
  | none =>
    simp only [hr] at h
    cases h
  | some removed =>
    simp only [hr] at h
    obtain ⟨rfl, _⟩ := Prod.mk.inj (Except.ok.inj h)
    exact hparents.dropSet hr

theorem breakLoop_some {db' : Database} {name : String} (h : db.breakLoop set = some (db', name)) :
    ∃ last, db' = db.setParent last none := by
  obtain ⟨_, _, h⟩ := Option.bind_eq_some_iff.mp h
  obtain ⟨last, _, h⟩ := Option.bind_eq_some_iff.mp h
  obtain ⟨cs, _, h⟩ := Option.bind_eq_some_iff.mp h
  exact ⟨last, (Prod.mk.inj (Option.some.inj h)).1.symm⟩

theorem Edits.breakLoopsFrom (h : Edits K db m n db₁) (sets : List CardSetId) :
    Edits K db m n (db₁.breakLoopsFrom sets).1 := by
  induction sets generalizing db₁ with
  | nil => exact h
  | cons set sets ih =>
    rw [Database.breakLoopsFrom]
    split
    · exact ih h
    · split
      · exact ih h
      · rename_i hb
        obtain ⟨last, rfl⟩ := breakLoop_some hb
        exact ih (h.parent (by simp))

theorem edits_breakLoops (db : Database) : Edits K db 0 0 db.breakLoops.1 :=
  Edits.none.breakLoopsFrom _

end CardBinder.Database
