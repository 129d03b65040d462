import CardBinder.Operation.Copies
import CardBinder.Operation.Import
import CardBinder.Operation.Selection
import CardBinder.Proofs.Filter
import CardBinder.Proofs.Operation.Hierarchy
import CardBinder.Proofs.Tally

/-! Filling card sets makes at most one new set, and as many copies as are asked for, of printings that
are allowed. -/

namespace CardBinder
variable {db db₁ db₂ : Database} {K : CardId → Option LookupId → Prop} {m n : Nat}
  {set id : CardSetId}

namespace Database

theorem Edits.putFor (h : Edits K db m n db₁) (set : CardSetId) {card : CardId}
    {expansion : Option LookupId} (hk : K card expansion) {k : Nat}
    (hfit : db₁.nextCopyId + k < idBound) :
    Edits K db m (n + k)
      ((db₁.printingFor card expansion).1.addCopies set (db₁.printingFor card expansion).2 k) :=
  (h.printing hk).newCopies (printingFor_mem _ _ _) (by rwa [nextCopyId_printingFor])

theorem checkCopyIds_ok_iff : db.checkCopyIds = .ok () ↔ db.nextCopyId < idBound :=
  checkCounter_ok_iff

theorem putCopies_ok {c : CopyCount} {cs : CardSet} (h : db.putCopies set c = .ok (db₁, cs)) :
    db.getCardSet set = .ok cs ∧ db.nextCopyId + c.count < idBound ∧
      db₁ = (db.printingFor c.card c.expansion).1.addCopies set
        (db.printingFor c.card c.expansion).2 c.count := by
  rw [putCopies] at h
  simp only at h
  split at h
  · cases h
  · obtain ⟨row, hrow, h⟩ := Outcome.bind_ok (x := db.getCardSet set) h
    obtain ⟨_, hcheck, h⟩ := Outcome.bind_ok h
    obtain ⟨rfl, rfl⟩ := Prod.mk.inj (Except.ok.inj h)
    have hfit := checkCopyIds_ok_iff.mp hcheck
    simp only [addCopies, nextCopyId_printingFor] at hfit
    exact ⟨hrow, hfit, rfl⟩

theorem edits_putCopies {c : CopyCount} {cs : CardSet} (hk : K c.card c.expansion)
    (h : db.putCopies set c = .ok (db₁, cs)) : Edits K db 0 c.count db₁ := by
  obtain ⟨_, hfit, rfl⟩ := putCopies_ok h
  have hput := (Edits.none : Edits K db 0 0 db).putFor set hk hfit
  rwa [Nat.zero_add] at hput

theorem edits_takeCopies {c : CopyCount} {cs : CardSet}
    (h : db.takeCopies set c = .ok (db₁, cs)) : Edits K db 0 0 db₁ := by
  obtain ⟨row, _, h⟩ := Outcome.bind_ok (x := db.getCardSet set) h
  simp only at h
  split at h
  · cases h
  · split at h
    · obtain ⟨rfl, rfl⟩ := Prod.mk.inj (Except.ok.inj h)
      exact Edits.none.fewerCopies
    · obtain ⟨rfl, rfl⟩ := Prod.mk.inj (Except.ok.inj h)
      exact Edits.none

/-- What making a set does to a database: it comes under the next number, with `n` copies. -/
structure MakesSet (K : CardId → Option LookupId → Prop) (n : Nat) (db db' : Database)
    (id : CardSetId) : Prop where
  edits : Edits K db 1 n db'
  next : id = ⟨db.nextCardSetId⟩
  stored : ∃ cs ∈ db'.cardSets, cs.id = id

theorem stored_insertCardSet {d : CardSetDraft} (h : db.insertCardSet d = .ok (db₁, id)) :
    id = ⟨db.nextCardSetId⟩ ∧ ∃ cs ∈ db₁.cardSets, cs.id = id := by
  obtain ⟨_, _, _, hid, hdb⟩ := insertCardSet_ok h
  refine ⟨hid, d.toCardSet ⟨db.nextCardSetId⟩, ?_, hid.symm⟩
  rw [hdb]
  exact List.mem_append_right _ (List.mem_singleton_self _)

theorem makesSet_insertCardSet {d : CardSetDraft} (h : db.insertCardSet d = .ok (db₁, id)) :
    MakesSet K 0 db db₁ id := by
  obtain ⟨hid, hnew⟩ := stored_insertCardSet h
  exact ⟨Edits.none.newSet h, hid, hnew⟩

end Database

namespace PreparedSet
open Database

theorem insertCopies_sets (set : CardSetId) (db : Database) (f : FoundCopies) :
    (insertCopies set db f).cardSets = db.cardSets := by
  simp only [insertCopies, addCopies]
  rw [printingFor_eq]

theorem foldl_insertCopies_sets (set : CardSetId) (copies : List FoundCopies) (db : Database) :
    (copies.foldl (insertCopies set) db).cardSets = db.cardSets := by
  induction copies generalizing db with
  | nil => rfl
  | cons f copies ih => exact (ih _).trans (insertCopies_sets set db f)

theorem nextCopyId_insertCopies (set : CardSetId) (copies : List FoundCopies) (db : Database) :
    (copies.foldl (insertCopies set) db).nextCopyId =
      db.nextCopyId + countSum (copies.map (·.count)) := by
  induction copies generalizing db with
  | nil => rfl
  | cons f copies ih =>
    rw [List.foldl_cons, ih, List.map_cons, Tally.countSum_cons, ← Nat.add_assoc]
    simp only [insertCopies, addCopies, nextCopyId_printingFor]

theorem edits_insertCopies (set : CardSetId) (h : Edits K db m n db₁) {copies : List FoundCopies}
    (hk : ∀ f ∈ copies, K f.card f.expansion)
    (hfit : db₁.nextCopyId + countSum (copies.map (·.count)) < idBound) :
    Edits K db m (n + countSum (copies.map (·.count))) (copies.foldl (insertCopies set) db₁) := by
  induction copies generalizing db₁ n with
  | nil => exact h
  | cons f copies ih =>
    rw [List.map_cons, Tally.countSum_cons, ← Nat.add_assoc] at hfit ⊢
    refine ih (h.putFor set (hk f List.mem_cons_self) (by omega))
      (fun g hg => hk g (List.mem_cons_of_mem _ hg)) ?_
    simpa only [insertCopies, addCopies, nextCopyId_printingFor] using hfit

theorem insert_ok {p : PreparedSet} (h : p.insert db = .ok (db₂, id)) :
    ∃ db₁, db.insertCardSet p.draft = .ok (db₁, id) ∧ db₁.nextCopyId + p.total < idBound ∧
      db₂ = p.copies.foldl (insertCopies id) db₁ := by
  obtain ⟨⟨db₁, id'⟩, hset, h⟩ := Outcome.bind_ok (x := db.insertCardSet p.draft) h
  obtain ⟨_, hcheck, h⟩ := Outcome.bind_ok h
  obtain ⟨rfl, rfl⟩ := Prod.mk.inj (Except.ok.inj h)
  have hfit := checkCopyIds_ok_iff.mp hcheck
  rw [nextCopyId_insertCopies] at hfit
  exact ⟨db₁, hset, hfit, rfl⟩

theorem makesSet_insert {p : PreparedSet} (h : Edits K db 0 0 db₁)
    (hnext : db₁.nextCardSetId = db.nextCardSetId) (hi : p.insert db₁ = .ok (db₂, id))
    (hk : ∀ f ∈ p.copies, K f.card f.expansion) : MakesSet K p.total db db₂ id := by
  obtain ⟨db', hset, hfit, rfl⟩ := insert_ok hi
  obtain ⟨hid, hnew⟩ := stored_insertCardSet hset
  have hedits := edits_insertCopies id (h.newSet hset) hk hfit
  simp only [Nat.zero_add] at hedits
  exact ⟨hedits, hnext ▸ hid, foldl_insertCopies_sets id p.copies db' ▸ hnew⟩

end PreparedSet

namespace Database

theorem parents_sets {id : CardSetId} (sets : List CardSetId)
    (h : ∃ cs ∈ db.cardSets, cs.id = id) (parent : Option CardSetId) :
    ∃ cs ∈ (sets.foldl (fun db set => db.setParent set parent) db).cardSets, cs.id = id := by
  induction sets generalizing db with
  | nil => exact h
  | cons set sets ih => exact ih (exists_set_of_ids (setParent_ids _ _ _) h)

/-- What an insertion makes of a database: one set, under the next number, with some copies. -/
def Inserts (K : CardId → Option LookupId → Prop) (db db' : Database) (id : CardSetId) : Prop :=
  (∃ n, Edits K db 1 n db') ∧ id = ⟨db.nextCardSetId⟩ ∧ ∃ cs ∈ db'.cardSets, cs.id = id

theorem MakesSet.inserts (h : MakesSet K n db db₁ id) : Inserts K db db₁ id :=
  ⟨⟨n, h.edits⟩, h.next, h.stored⟩

theorem inserts_insertCardSet {d : CardSetDraft} (h : db.insertCardSet d = .ok (db₁, id)) :
    Inserts K db db₁ id :=
  (makesSet_insertCardSet h).inserts

theorem makesSet_replaceSet {old : CardSetId} {p : PreparedSet}
    (hk : ∀ f ∈ p.copies, K f.card f.expansion) (h : db.replaceSet old p = .ok (db₁, id)) :
    MakesSet K p.total db db₁ id := by
  obtain ⟨row, _, h⟩ := Outcome.bind_ok (x := db.getCardSet old) h
  -- the set that goes takes its copies along, and the counters stay
  have hdrop : Edits K db 0 0 (((db.removeCardSet old).map (·.1)).getD db) ∧
      (((db.removeCardSet old).map (·.1)).getD db).nextCardSetId = db.nextCardSetId := by
    cases hr : db.removeCardSet old with
    | none => exact ⟨Edits.none, rfl⟩
    | some removed =>
      refine ⟨Edits.none.dropSet hr, ?_⟩
      obtain ⟨i, _, _, hdb⟩ := removeCardSet_some hr
      simp [hdb]
  obtain ⟨⟨db', id'⟩, hinsert, h⟩ := Outcome.bind_ok h
  obtain ⟨hedits, hnext, hnew⟩ := PreparedSet.makesSet_insert hdrop.1 hdrop.2 hinsert hk
  simp only at h
  split at h
  · obtain ⟨_, _, h⟩ := Outcome.bind_ok h
    cases h
  · obtain ⟨rfl, rfl⟩ := Prod.mk.inj (Except.ok.inj h)
    exact ⟨hedits.parents _ (by simpa using hnew) _, hnext, parents_sets _ hnew _⟩

theorem makesSet_insertOrReplace {replacing : Option CardSetId} {p : PreparedSet}
    (hk : ∀ f ∈ p.copies, K f.card f.expansion)
    (h : db.insertOrReplace replacing p = .ok (db₁, id)) : MakesSet K p.total db db₁ id := by
  cases replacing with
  | none => exact PreparedSet.makesSet_insert Edits.none rfl h hk
  | some old => exact makesSet_replaceSet hk h

theorem inserts_insertOrReplace {replacing : Option CardSetId} {p : PreparedSet}
    (hk : ∀ f ∈ p.copies, K f.card f.expansion)
    (h : db.insertOrReplace replacing p = .ok (db₁, id)) : Inserts K db db₁ id :=
  (makesSet_insertOrReplace hk h).inserts

/-! Selections -/

/-- Printings stay when others are made. -/
theorem printingFor_subset (db : Database) (card : CardId) (expansion : Option LookupId) :
    db.printings ⊆ (db.printingFor card expansion).1.printings := by
  rcases printingFor_cases db card expansion with ⟨p, _, _, h⟩ | ⟨_, h⟩
  · rw [h]
    exact List.Subset.refl _
  · rw [h]
    exact List.subset_append_left _ _

theorem Edits.plainPrintings (h : Edits K db m n db₁) {cards : List CardId}
    (hk : ∀ card ∈ cards, K card .none) :
    Edits K db m n (db₁.plainPrintings cards).1 ∧
      db₁.printings ⊆ (db₁.plainPrintings cards).1.printings ∧
      (db₁.plainPrintings cards).1.nextCardSetId = db₁.nextCardSetId ∧
      ∀ printing ∈ (db₁.plainPrintings cards).2,
        ∃ p ∈ (db₁.plainPrintings cards).1.printings, p.id = printing := by
  induction cards generalizing db₁ with
  | nil => exact ⟨h, List.Subset.refl _, rfl, by simp [Database.plainPrintings]⟩
  | cons card cards ih =>
    obtain ⟨hedits, hsub, hnext, hmem⟩ := ih (h.printing (hk card List.mem_cons_self))
      (fun c hc => hk c (List.mem_cons_of_mem _ hc))
    simp only [Database.plainPrintings]
    refine ⟨hedits, List.Subset.trans (printingFor_subset _ _ _) hsub, ?_, ?_⟩
    · rw [hnext, printingFor_eq]
    · intro printing hprinting
      rcases List.mem_cons.mp hprinting with rfl | hprinting
      · obtain ⟨p, hp, hid⟩ := printingFor_mem db₁ card .none
        exact ⟨p, hsub hp, hid⟩
      · exact hmem printing hprinting

theorem edits_selectedPrintings {f : Filter} {printings : List PrintingId}
    (hk : ∀ c ∈ db.cards, K c.id none) (h : db.selectedPrintings f = .ok (db₁, printings)) :
    Edits K db 0 0 db₁ ∧ db₁.nextCardSetId = db.nextCardSetId ∧
      ∀ printing ∈ printings, ∃ p ∈ db₁.printings, p.id = printing := by
  rw [selectedPrintings] at h
  split at h
  · cases hc : f.selectCards db with
    | error failure =>
      rw [hc] at h
      cases h
    | ok cards =>
      rw [hc] at h
      have hall : ∀ card ∈ cards, K card none := by
        intro card hcard
        obtain ⟨c, hmem, rfl⟩ := Filter.selectCards_mem hc card hcard
        exact hk c hmem
      obtain ⟨hedits, _, hnext, hmem⟩ := (Edits.none : Edits K db 0 0 db).plainPrintings hall
      obtain ⟨hdb, hprintings⟩ := Prod.mk.inj (Except.ok.inj h)
      rw [← hdb, ← hprintings]
      exact ⟨hedits, hnext, hmem⟩
  · split at h
    · cases hc : f.selectPrintings db with
      | error failure =>
        rw [hc] at h
        cases h
      | ok found =>
        rw [hc] at h
        obtain ⟨rfl, rfl⟩ := Prod.mk.inj (Except.ok.inj h)
        exact ⟨Edits.none, rfl, Filter.selectPrintings_mem hc⟩
    · cases h

/-- How many rows a filter selects for a set that is made from it. -/
def selectedCount (db : Database) (f : Filter) : Nat :=
  match db.selectedPrintings f with
  | .ok (_, printings) => printings.length
  | .error _ => 0

theorem selectedCount_of_ok {f : Filter} {printings : List PrintingId}
    (h : db.selectedPrintings f = .ok (db₁, printings)) :
    db.selectedCount f = printings.length := by
  rw [selectedCount, h]

theorem foldl_addCopy_sets (set : CardSetId) (printings : List PrintingId) (db : Database) :
    (printings.foldl (fun db p => (db.addCopy set p).1) db).cardSets = db.cardSets := by
  induction printings generalizing db with
  | nil => rfl
  | cons printing printings ih => exact ih _

theorem nextCopyId_addEach (set : CardSetId) (printings : List PrintingId) (db : Database) :
    (printings.foldl (fun db p => (db.addCopy set p).1) db).nextCopyId =
      db.nextCopyId + printings.length := by
  induction printings generalizing db with
  | nil => rfl
  | cons printing printings ih =>
    rw [List.foldl_cons, ih, List.length_cons, Nat.add_comm printings.length, ← Nat.add_assoc]
    rfl

theorem Edits.addEach (h : Edits K db m n db₁) (set : CardSetId) {printings : List PrintingId}
    (hp : ∀ printing ∈ printings, ∃ p ∈ db₁.printings, p.id = printing)
    (hfit : db₁.nextCopyId + printings.length < idBound) :
    Edits K db m (n + printings.length)
      (printings.foldl (fun db p => (db.addCopy set p).1) db₁) := by
  induction printings generalizing db₁ n with
  | nil => exact h
  | cons printing printings ih =>
    rw [List.length_cons, Nat.add_comm printings.length, ← Nat.add_assoc] at hfit ⊢
    have hadded := addCopy_eq db₁ set printing ▸
      h.newCopies (hp printing List.mem_cons_self) (show db₁.nextCopyId + 1 < idBound by omega)
    exact ih hadded (fun q hq => hp q (List.mem_cons_of_mem _ hq)) hfit

theorem insertSelection_ok {f : Filter} {d : CardSetDraft}
    (h : db.insertSelection f d = .ok (db₁, id)) :
    ∃ selected db₂, db.selectedPrintings f = .ok selected ∧
      selected.1.insertCardSet d = .ok (db₂, id) ∧
      db₂.nextCopyId + selected.2.length < idBound ∧
      db₁ = selected.2.foldl (fun db p => (db.addCopy id p).1) db₂ := by
  obtain ⟨⟨db', printings⟩, hselect, h⟩ := Outcome.bind_ok (x := db.selectedPrintings f) h
  obtain ⟨⟨db₂, id'⟩, hset, h⟩ := Outcome.bind_ok (x := db'.insertCardSet d) h
  obtain ⟨_, hcheck, h⟩ := Outcome.bind_ok h
  obtain ⟨rfl, rfl⟩ := Prod.mk.inj (Except.ok.inj h)
  have hfit := checkCopyIds_ok_iff.mp hcheck
  rw [nextCopyId_addEach] at hfit
  exact ⟨_, db₂, hselect, hset, hfit, rfl⟩

/-- A set made of a selection has one copy of each selected printing. -/
theorem makesSet_insertSelection {f : Filter} {d : CardSetDraft}
    (hk : ∀ c ∈ db.cards, K c.id none) (h : db.insertSelection f d = .ok (db₁, id)) :
    ∃ selected, db.selectedPrintings f = .ok selected ∧
      MakesSet K selected.2.length db db₁ id := by
  obtain ⟨⟨db', printings⟩, db'', hselect, hset, hfit, rfl⟩ := insertSelection_ok h
  obtain ⟨hedits, hnext, hmem⟩ := edits_selectedPrintings hk hselect
  obtain ⟨hid, hnew⟩ := stored_insertCardSet hset
  have hprintings : db''.printings = db'.printings := by
    obtain ⟨_, _, _, _, rfl⟩ := insertCardSet_ok hset
    rfl
  have hedits' := (hedits.newSet hset).addEach id (hprintings ▸ hmem) hfit
  simp only [Nat.zero_add] at hedits'
  exact ⟨_, hselect, hedits', hnext ▸ hid, foldl_addCopy_sets id printings db'' ▸ hnew⟩

theorem inserts_insertSelection {f : Filter} {d : CardSetDraft}
    (hk : ∀ c ∈ db.cards, K c.id none) (h : db.insertSelection f d = .ok (db₁, id)) :
    Inserts K db db₁ id := by
  obtain ⟨_, _, hmakes⟩ := makesSet_insertSelection hk h
  exact hmakes.inserts

end Database
end CardBinder
