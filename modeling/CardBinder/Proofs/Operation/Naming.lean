import CardBinder.Proofs.Names
import CardBinder.Proofs.Operation.Contents
import CardBinder.Proofs.Operation.Refresh

/-! The names of card sets: a change of details and a prepared set bring in trimmed ones only. -/

namespace CardBinder
variable {P : String → Prop} {db db' : Database} {id set : CardSetId} {d : CardSetDraft}
  {p : PreparedSet}

theorem Holder.neatName {h : Holder} {name : String} (hname : h.trimmedName? = some name) :
    NeatName name := by
  obtain ⟨typed, _, hsome⟩ := Option.bind_eq_some_iff.mp hname
  simp only at hsome
  split at hsome
  · cases hsome
  · rename_i hblank
    obtain rfl := Option.some.inj hsome
    refine neatName_trim fun hempty => hblank ?_
    rw [hempty]
    rfl

/-- Only a holder with a name is prepared, and its set gets the trimmed name. -/
theorem Holder.neatName_prepare {σ : Type} {h : Holder} {r : Resolver σ}
    (hprepared : (h.prepare db r).1 = .ok p) : NeatName p.draft.name := by
  rw [prepare] at hprepared
  split at hprepared
  · cases hprepared
  · rename_i name hname
    obtain rfl := Except.ok.inj hprepared
    exact neatName hname

namespace Database

theorem neatName_of_checkName {name : String} (h : db.checkName set name = .ok ()) :
    NeatName (Text.trim name) := by
  simp only [checkName] at h
  split at h
  · cases h
  · rename_i hblank
    refine neatName_trim fun hempty => hblank ?_
    rw [hempty]
    rfl

theorem neatName_of_changeDetails {change : DetailChange} {cs : CardSet}
    (h : db.changeDetails set change = .ok (db', cs)) :
    ∀ name ∈ change.name, NeatName (Text.trim name) := by
  intro name hname
  rw [changeDetails, Option.mem_def.mp hname] at h
  obtain ⟨_, hcheck, _⟩ := Outcome.bind_ok (x := db.checkName set name) h
  exact neatName_of_checkName hcheck

/-- The names of all card sets are of some kind. -/
def NamesAre (P : String → Prop) (db : Database) : Prop :=
  ∀ cs ∈ db.cardSets, P cs.name

theorem NamesAre.of_sets (h : db.NamesAre P) (hsets : db'.cardSets = db.cardSets) :
    db'.NamesAre P :=
  fun cs hcs => h cs (hsets ▸ hcs)

/-- A new set keeps the name that it was given. -/
theorem NamesAre.insertCardSet (h : db.NamesAre P) (hname : P d.name)
    (hi : db.insertCardSet d = .ok (db', id)) : db'.NamesAre P := by
  obtain ⟨_, _, _, _, rfl⟩ := insertCardSet_ok hi
  intro cs hcs
  rcases List.mem_append.mp hcs with hcs | hcs
  · exact h cs hcs
  · rw [List.mem_singleton.mp hcs]
    exact hname

theorem NamesAre.insert (h : db.NamesAre P) (hname : P p.draft.name)
    (hi : p.insert db = .ok (db', id)) : db'.NamesAre P := by
  obtain ⟨db₁, hset, _, rfl⟩ := PreparedSet.insert_ok hi
  exact (h.insertCardSet hname hset).of_sets (PreparedSet.foldl_insertCopies_sets _ _ _)

/-- Everything that a filter selects goes into a set that is made like any other. -/
theorem insertSelection_sets {f : Filter} (hi : db.insertSelection f d = .ok (db', id)) :
    ∃ db₁ db₂, Edits (fun _ _ => True) db 0 0 db₁ ∧ db₁.insertCardSet d = .ok (db₂, id) ∧
      db'.cardSets = db₂.cardSets := by
  obtain ⟨selected, db₂, hselect, hset, _, rfl⟩ := insertSelection_ok hi
  have hedits := (edits_selectedPrintings (K := fun _ _ => True) (fun _ _ => trivial) hselect).1
  exact ⟨selected.1, db₂, hedits, hset, foldl_addCopy_sets id selected.2 db₂⟩

theorem named_insertCardSet (hi : db.insertCardSet d = .ok (db', id)) :
    ∃ cs ∈ db'.cardSets, cs.name = d.name := by
  obtain ⟨_, _, _, _, rfl⟩ := insertCardSet_ok hi
  exact ⟨_, List.mem_append_right _ (List.mem_singleton_self _), rfl⟩

theorem named_insertSelection {f : Filter} (hi : db.insertSelection f d = .ok (db', id)) :
    ∃ cs ∈ db'.cardSets, cs.name = d.name := by
  obtain ⟨_, _, _, hset, hsets⟩ := insertSelection_sets hi
  exact hsets ▸ named_insertCardSet hset

section Edits
variable {K : CardId → Option LookupId → Prop} {m n : Nat}
  (hneat : ∀ name, NeatName name → P name)
include hneat

/-- As long as no set is new, every name was there before or is neat. -/
theorem NamesAre.edits (h : db.NamesAre P) (he : Edits K db m n db') (hm : m = 0) :
    db'.NamesAre P := by
  induction he with
  | none => exact h
  | printing _ _ ih =>
    rw [printingFor_eq]
    exact ih hm
  | @details _ _ _ _ _ change _ _ hd ih =>
    have hnew := neatName_of_changeDetails hd
    rw [(changeDetails_ok hd).1]
    refine modifyCardSet_forall (P := fun cs => P cs.name) (ih hm) fun cs hcs => ?_
    cases hname : change.name with
    | none => simpa [DetailChange.apply, hname] using hcs
    | some name => simpa [DetailChange.apply, hname] using hneat _ (hnew name hname)
  | parent _ _ ih => exact modifyCardSet_forall (P := fun cs => P cs.name) (ih hm) fun _ hcs => hcs
  | newSet => exact absurd hm (Nat.succ_ne_zero _)
  | newCopies _ _ _ ih => exact ih hm
  | fewerCopies _ ih => exact ih hm
  | dropSet _ hr ih =>
    obtain ⟨i, _, _, rfl⟩ := removeCardSet_some hr
    exact fun cs hcs => ih hm cs ((List.eraseIdx_sublist _ i).subset hcs)

theorem NamesAre.insertSelection {f : Filter} (h : db.NamesAre P) (hname : P d.name)
    (hi : db.insertSelection f d = .ok (db', id)) : db'.NamesAre P := by
  obtain ⟨db₁, db₂, hedits, hset, hsets⟩ := insertSelection_sets hi
  exact ((h.edits hneat hedits rfl).insertCardSet hname hset).of_sets hsets

theorem NamesAre.replaceSet {old : CardSetId} (h : db.NamesAre P) (hname : P p.draft.name)
    (hi : db.replaceSet old p = .ok (db', id)) : db'.NamesAre P := by
  obtain ⟨row, _, hi⟩ := Outcome.bind_ok (x := db.getCardSet old) hi
  have hdropped : (((db.removeCardSet old).map (·.1)).getD db).NamesAre P := by
    cases hr : db.removeCardSet old with
    | none => exact h
    | some removed =>
      exact h.edits hneat (.dropSet (K := fun _ _ => True) .none hr) rfl
  obtain ⟨⟨db₁, id₁⟩, hinsert, hi⟩ := Outcome.bind_ok hi
  have hinserted : db₁.NamesAre P := by
    refine hdropped.insert ?_ hinsert
    simp only
    split <;> exact hname
  simp only at hi
  split at hi
  · obtain ⟨_, _, hi⟩ := Outcome.bind_ok hi
    cases hi
  · obtain ⟨rfl, rfl⟩ := Prod.mk.inj (Except.ok.inj hi)
    refine List.foldlRecOn _ _ hinserted fun db h child _ => ?_
    exact modifyCardSet_forall (P := fun cs => P cs.name) h fun _ hcs => hcs

theorem NamesAre.insertOrReplace {replacing : Option CardSetId} (h : db.NamesAre P)
    (hname : P p.draft.name) (hi : db.insertOrReplace replacing p = .ok (db', id)) :
    db'.NamesAre P := by
  cases replacing with
  | none => exact h.insert hname hi
  | some old => exact h.replaceSet hneat hname hi

theorem NamesAre.replaceCatalog {catalog : Catalog} {cards : Nat} {r : Restoration}
    (h : db.NamesAre P) (hi : db.replaceCatalog catalog = .ok (db', cards, r)) :
    db'.NamesAre P := by
  obtain ⟨_, he⟩ := edits_replaceCatalog hi
  have hrefilled : (db.refilled catalog).NamesAre P :=
    h.of_sets (sameHoldings_refilled db catalog).cardSets
  exact hrefilled.edits hneat he rfl

end Edits
end Database
end CardBinder
