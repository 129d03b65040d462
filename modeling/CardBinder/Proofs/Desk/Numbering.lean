import CardBinder.Proofs.Filter.Parts
import CardBinder.Proofs.Store

/-! New sets and copies get numbers above all others, and where a counter runs out there is no answer. -/

namespace CardBinder

/-! What is answered as long as there are numbers -/

namespace Database
variable {db : Database} {f : Filter} {p : PreparedSet}

theorem answers_checkCounter {bound next : Nat} (h : next < bound) :
    Outcome.Answers (checkCounter bound next) := by
  rw [checkCounter_ok_iff.mpr h]
  exact Outcome.answers_ok ()

theorem answers_getCardSet (db : Database) (id : CardSetId) :
    Outcome.Answers (db.getCardSet id) := by
  rw [getCardSet]
  split <;> simp

theorem answers_insertCardSet (h : db.nextCardSetId + 1 < idBound) (d : CardSetDraft) :
    Outcome.Answers (db.insertCardSet d) := by
  rw [insertCardSet]
  split
  · exact Outcome.answers_error_iff.mpr (by simp)
  · have hrest := (answers_checkCounter h).bind
      (f := fun _ => .ok (db.withSet d, (⟨db.nextCardSetId⟩ : CardSetId)))
      fun _ _ => Outcome.answers_ok _
    cases d.parent with
    | none => exact hrest
    | some parent => exact (answers_getCardSet db parent).bind fun _ _ => hrest

theorem nextCopyId_insertCardSet {db' : Database} {d : CardSetDraft} {id : CardSetId}
    (h : db.insertCardSet d = .ok (db', id)) : db'.nextCopyId = db.nextCopyId := by
  obtain ⟨_, _, _, _, rfl⟩ := insertCardSet_ok h
  rfl

theorem answers_insert (h : db.HasNumbers 1 p.total) : Outcome.Answers (p.insert db) := by
  refine (answers_insertCardSet h.1 p.draft).bind ?_
  rintro ⟨db', id⟩ hset
  have hcopies : (p.copies.foldl (PreparedSet.insertCopies id) db').nextCopyId < idBound := by
    rw [PreparedSet.nextCopyId_insertCopies, nextCopyId_insertCardSet hset]
    exact h.2
  exact (answers_checkCounter hcopies).bind fun _ _ => Outcome.answers_ok _

theorem answers_replaceSet {old : CardSetId} (h : db.HasNumbers 1 p.total) :
    Outcome.Answers (db.replaceSet old p) := by
  refine (answers_getCardSet db old).bind fun row _ => ?_
  -- the counters stay when a set goes
  have hcounters : (((db.removeCardSet old).map (·.1)).getD db).HasNumbers 1 p.total := by
    cases hr : db.removeCardSet old with
    | none => exact h
    | some removed =>
      obtain ⟨_, _, _, hdb⟩ := removeCardSet_some hr
      rw [Option.map_some, Option.getD_some, hdb]
      exact h
  have hinsert : ∀ draft, Outcome.Answers (PreparedSet.insert { p with draft }
      (((db.removeCardSet old).map (·.1)).getD db)) := fun draft => answers_insert hcounters
  refine (hinsert _).bind ?_
  rintro ⟨db', id⟩ _
  simp only
  split
  · exact (answers_getCardSet _ id).bind fun _ _ => Outcome.answers_error_iff.mpr (by simp)
  · exact Outcome.answers_ok _

theorem answers_selectedPrintings (db : Database) (f : Filter) :
    Outcome.Answers (db.selectedPrintings f) := by
  have hselect : ∀ e, Outcome.Answers (f.select db e) := by
    intro e
    rw [Filter.select]
    split
    · exact (f.answers_condition db).map _
    · exact Outcome.answers_error_iff.mpr (by simp)
  rw [selectedPrintings]
  split
  · exact ((hselect .card).map _).map _
  · split
    · exact ((hselect .printing).map _).map _
    · exact Outcome.answers_error_iff.mpr (by simp)

theorem answers_insertSelection (h : db.HasNumbers 1 (db.selectedCount f)) (d : CardSetDraft) :
    Outcome.Answers (db.insertSelection f d) := by
  refine (answers_selectedPrintings db f).bind ?_
  rintro ⟨db', printings⟩ hselect
  obtain ⟨hedits, hnext, _⟩ :=
    edits_selectedPrintings (K := fun _ _ => True) (fun _ _ => trivial) hselect
  have hnextCopy : db'.nextCopyId = db.nextCopyId := hedits.copies.2
  rw [selectedCount_of_ok hselect] at h
  refine (answers_insertCardSet (hnext ▸ h.1) d).bind ?_
  rintro ⟨db'', id⟩ hset
  have hcopies :
      (printings.foldl (fun db printing => (db.addCopy id printing).1) db'').nextCopyId <
        idBound := by
    rw [nextCopyId_addEach, nextCopyId_insertCardSet hset, hnextCopy]
    exact h.2
  exact (answers_checkCounter hcopies).bind fun _ _ => Outcome.answers_ok _

theorem answers_checkIntegrity (db : Database) : Outcome.Answers db.checkIntegrity := by
  have hparent : db.missingParent? ≠ some .outOfNumbers := by
    intro h
    obtain ⟨cs, _, hcs⟩ := List.exists_of_findSome?_eq_some h
    split at hcs
    · cases hcs
    · split at hcs <;> cases hcs
  have hcopy : db.danglingCopy? ≠ some .outOfNumbers := by
    intro h
    obtain ⟨c, _, hc⟩ := List.exists_of_findSome?_eq_some h
    split at hc <;> cases hc
  rw [checkIntegrity]
  split
  · rename_i hmissing
    exact Outcome.answers_error_iff.mpr fun h => hparent (h ▸ hmissing)
  · split
    · rename_i hdangling
      exact Outcome.answers_error_iff.mpr fun h => hcopy (h ▸ hdangling)
    · exact Outcome.answers_ok ()

theorem answers_validate (db : Database) : Outcome.Answers db.validate := by
  refine (answers_checkIntegrity db).bind fun _ _ => ?_
  rw [checkForest]
  split <;> simp

end Database

/-- Checking and saving are answered for. -/
theorem Store.answers_attempt {α : Type} {s : Store} {change : Database → Outcome (Database × α)}
    (h : Outcome.Answers (change s.db)) : Outcome.Answers (s.attempt change) := by
  refine h.bind fun (db, a) _ => ?_
  refine (Database.answers_validate db).bind fun _ _ => ?_
  refine Outcome.Answers.bind ?_ fun _ _ => Outcome.answers_ok _
  rw [commit]
  split <;> simp

/-- The ways to make a card set. -/
inductive Insertion where
  | draft (d : CardSetDraft)
  /-- A set with one copy of each printing that a filter selects. -/
  | selection (f : Filter) (d : CardSetDraft)
  /-- A holder that was prepared, for a new set or in the place of an old one. -/
  | prepared (replacing : Option CardSetId) (p : PreparedSet)

namespace Insertion
variable {db db' : Database} {id : CardSetId} {s : Store}

def change (i : Insertion) (db : Database) : Outcome (Database × CardSetId) :=
  match i with
  | draft d => db.insertCardSet d
  | selection f d => db.insertSelection f d
  | prepared replacing p => db.insertOrReplace replacing p

/-- How many copies the new set has. -/
def copies (i : Insertion) (db : Database) : Nat :=
  match i with
  | draft _ => 0
  | selection f _ => db.selectedCount f
  | prepared _ p => p.total

theorem makesSet {i : Insertion} (h : i.change db = .ok (db', id)) :
    db.MakesSet (fun _ _ => True) (i.copies db) db' id := by
  cases i with
  | draft d => exact Database.makesSet_insertCardSet h
  | selection f d =>
    obtain ⟨selected, hselect, hmakes⟩ :=
      Database.makesSet_insertSelection (K := fun _ _ => True) (fun _ _ => trivial) h
    rw [copies, Database.selectedCount_of_ok hselect]
    exact hmakes
  | prepared replacing p => exact Database.makesSet_insertOrReplace (fun _ _ => trivial) h

theorem answers_change {i : Insertion} (h : db.HasNumbers 1 (i.copies db)) :
    Outcome.Answers (i.change db) := by
  cases i with
  | draft d => exact Database.answers_insertCardSet h.1 d
  | selection f d => exact Database.answers_insertSelection h d
  | prepared replacing p =>
    cases replacing with
    | none => exact Database.answers_insert h
    | some old => exact Database.answers_replaceSet h

/-- An insertion that is not refused gives out new numbers and leaves the counters ahead, if there are
numbers for the set and its copies; if there are not, it has no answer. -/
theorem transaction_countersAhead (ha : s.db.CountersAhead) (i : Insertion) :
    Ends (Work.transaction i.change) s fun r s' =>
      (∃ failure, r = .error failure ∧ failure ≠ .outOfNumbers ∧ s' = s) ∨
        if s.db.HasNumbers 1 (i.copies s.db) then
          ∃ id, r = .ok id ∧ (∀ cs ∈ s.db.cardSets, cs.id ≠ id) ∧ s'.db.CountersAhead
        else r = .error .outOfNumbers := by
  refine Ends.get ?_
  cases h : s.attempt i.change with
  | error failure =>
    by_cases hstopped : failure = .outOfNumbers
    · have hnumbers : ¬ s.db.HasNumbers 1 (i.copies s.db) := fun hnumbers =>
        Store.answers_attempt (answers_change hnumbers) (hstopped ▸ h)
      simp only [if_neg hnumbers]
      exact Or.inr (hstopped ▸ rfl)
    · exact Or.inl ⟨failure, rfl, hstopped, rfl⟩
  | ok changed =>
    obtain ⟨s', id⟩ := changed
    obtain ⟨db', hchange, _, rfl⟩ := Store.attempt_ok h
    obtain ⟨hedits, hid, _⟩ := makesSet hchange
    obtain ⟨hahead, hnumbers⟩ := hedits.countersAhead ha
    simp only [if_pos hnumbers]
    exact Or.inr ⟨id, rfl, hid ▸ ha.fresh, hahead⟩

/-- The binder after almost all numbers were given out. -/
def oldBinder : Database :=
  { Database.binder with nextCardSetId := idBound - 2, nextCopyId := idBound - 3 }

theorem countersAhead_oldBinder : oldBinder.CountersAhead where
  cardSets := ⟨by decide, by decide⟩
  cardSetsFit := by decide
  copies := ⟨by decide, by decide⟩
  copiesFit := by decide

/-- A set of some dogs. -/
def pups (n : Nat) : Insertion :=
  prepared none { draft := { name := "Pups" }, copies := [⟨⟨0⟩, none, n⟩, ⟨⟨0⟩, some ⟨0⟩, 1⟩] }

/-- Two dogs still fit, and three do not. -/
theorem transaction_countersAhead_pups :
    Ends (Work.transaction (pups 1).change) (Store.ofDatabase oldBinder)
      (fun r s' => (∃ id, r = .ok id) ∧ s'.db.CountersAhead) ∧
    Ends (Work.transaction (pups 2).change) (Store.ofDatabase oldBinder)
      fun r _ => r = .error .outOfNumbers := by
  have hends := transaction_countersAhead (s := Store.ofDatabase oldBinder) countersAhead_oldBinder
  have hmade : ((Work.transaction (pups 1).change).run.run (Store.ofDatabase oldBinder)).1 =
      .ok ⟨idBound - 2⟩ := by decide +kernel
  have hstopped : ((Work.transaction (pups 2).change).run.run (Store.ofDatabase oldBinder)).1 =
      .error .outOfNumbers := by decide +kernel
  constructor
  · rcases hends (pups 1) with ⟨failure, hfail, _⟩ | hdone
    · exact nomatch hfail.symm.trans hmade
    · obtain ⟨id, hid, _, hahead⟩ := (if_pos (by decide)).mp hdone
      exact ⟨⟨id, hid⟩, hahead⟩
  · rcases hends (pups 2) with ⟨failure, hfail, hne, _⟩ | hdone
    · exact absurd (Except.error.inj (hfail.symm.trans hstopped)) hne
    · exact (if_neg (by decide)).mp hdone

/-- A pack under the first number, with the last number to be given out next. -/
def lastNumber : Database :=
  { Database.empty with
    cardSets := [({ name := "Pack" } : CardSetDraft).toCardSet ⟨0⟩]
    nextCardSetId := idBound - 1 }

/-- The set that would get the last number is neither refused nor made. -/
theorem not_transaction_countersAhead :
    (Store.ofDatabase lastNumber).db.CountersAhead ∧
    ¬ Ends (Work.transaction (draft { name := "Flock" }).change) (Store.ofDatabase lastNumber)
      fun r s' => (∃ failure, r = .error failure ∧ failure ≠ .outOfNumbers ∧
        s' = Store.ofDatabase lastNumber) ∨ ∃ id, r = .ok id ∧ s'.db.CountersAhead := by
  refine ⟨⟨⟨by decide, by decide⟩, by decide, inOrder_nil, by decide⟩, ?_⟩
  have hstopped : ((Work.transaction (draft { name := "Flock" }).change).run.run
      (Store.ofDatabase lastNumber)).1 = .error .outOfNumbers := by decide +kernel
  rintro (⟨failure, hfail, hne, _⟩ | ⟨id, hid, _⟩)
  · exact hne (Except.error.inj (hfail.symm.trans hstopped))
  · exact nomatch hid.symm.trans hstopped

end Insertion
end CardBinder
