import CardBinder.Proofs.Document.Database
import CardBinder.Proofs.Operation.Refresh

/-! Whatever is edited, and whatever catalog is brought in, every number can still be written. -/

namespace CardBinder

/-- The numbers on the cards of a catalog can be written. -/
def Catalog.NumbersFit (catalog : Catalog) : Prop :=
  ∀ c ∈ catalog.cards, (Database.cardOfRecord c).NumbersFit

instance (catalog : Catalog) : Decidable catalog.NumbersFit :=
  inferInstanceAs (Decidable (∀ c ∈ catalog.cards, _))

namespace Database
variable {db db' : Database} {K : CardId → Option LookupId → Prop} {m n : Nat}

/-! The cards of a catalog -/

theorem cards_foldl {β : Type} {f : Database → β → Database}
    (hf : ∀ db b, (f db b).cards = db.cards) (bs : List β) (db : Database) :
    (bs.foldl f db).cards = db.cards := by
  induction bs generalizing db with
  | nil => rfl
  | cons b bs ih => exact (ih (f db b)).trans (hf db b)

theorem cards_linkRecord (db : Database) (card : CardId) (c : CardRecord) :
    (db.linkRecord card c).cards = db.cards := by
  have hdiscipline : ∀ db d, (linkDiscipline card db d).cards = db.cards := by
    intro db d
    simp only [linkDiscipline, addDisciplinePair]
    split <;> rfl
  have hrarity : ∀ db x, (linkRarity card db x).cards = db.cards := by
    intro db x
    simp only [linkRarity, addRarityPair]
    split <;> rfl
  have hname : ∀ (db : Database) (x : Relation × LookupKind × List String),
      (x.2.2.foldl (linkName card x.1 x.2.1) db).cards = db.cards :=
    fun db x => cards_foldl (f := linkName card x.1 x.2.1) (fun _ _ => rfl) x.2.2 db
  simp only [linkRecord]
  rw [cards_foldl hrarity, cards_foldl hdiscipline]
  exact cards_foldl hname c.names db

theorem mem_cards_addCards {cs : List CardRecord} {added : Nat} {c : Card}
    (h : c ∈ (db.addCards added cs).1.cards) :
    c ∈ db.cards ∨ ∃ r ∈ cs, ∃ id, c = { cardOfRecord r with id := id } := by
  induction cs generalizing db added with
  | nil => exact .inl h
  | cons r cs ih =>
    rw [addCards] at h
    split at h
    · rename_i db' id hadd
      obtain ⟨⟨pushed, id'⟩, hpush, hadd⟩ := Outcome.bind_ok hadd
      obtain ⟨rfl, _⟩ := Prod.mk.inj (Except.ok.inj hadd)
      rw [pushCard] at hpush
      split at hpush
      · cases hpush
      · obtain ⟨rfl, _⟩ := Prod.mk.inj (Except.ok.inj hpush)
        rcases ih h with h | ⟨r', hr', hc⟩
        · rw [cards_linkRecord] at h
          rcases List.mem_append.mp h with h | h
          · exact .inl h
          · exact .inr ⟨r, List.mem_cons_self, _, List.mem_singleton.mp h⟩
        · exact .inr ⟨r', List.mem_cons_of_mem _ hr', hc⟩
    · exact .inl h

theorem numbersFit_addCards {cs : List CardRecord} (h : ∀ c ∈ db.cards, c.NumbersFit)
    (hcs : ∀ c ∈ cs, (cardOfRecord c).NumbersFit) (added : Nat) :
    ∀ c ∈ (db.addCards added cs).1.cards, c.NumbersFit := by
  intro c hc
  rcases mem_cards_addCards hc with hc | ⟨r, hr, id, rfl⟩
  · exact h c hc
  · have hfit := hcs r hr
    exact ⟨hfit.group, hfit.capacity, hfit.cost, hfit.life⟩

theorem numbersFit_refilled {catalog : Catalog} (h : catalog.NumbersFit) :
    ∀ c ∈ (db.refilled catalog).cards, c.NumbersFit := by
  refine numbersFit_addCards ?_ h 0
  have hlookups : (catalog.lookups.foldl addLookupRecord db.resetCatalog).cards = [] :=
    cards_foldl (f := addLookupRecord) (fun _ _ => rfl) catalog.lookups db.resetCatalog
  simp [hlookups]

/-- Rows of a sound catalog have their places as numbers, and refer to such rows. -/
theorem CatalogValid.storable (hv : db.CatalogValid) (hcards : ∀ c ∈ db.cards, c.NumbersFit) :
    db.CatalogStorable := by
  have hentry : ∀ {kind id}, db.HasEntry kind id → id.Fits := fun h =>
    h.lt (hv.lookups _).numbered
  refine ⟨?_, ?_, ?_, ?_, fun c hc => ⟨hv.cards.lt hc, hcards c hc⟩, ?_⟩
  · exact fun kind e he => (hv.lookups kind).numbered.lt he
  · exact fun kind name id h => hentry (hv.hasEntry_findLookup h)
  · exact fun p hp => ⟨hv.disciplinePairs.lt hp, hentry (hv.disciplinesKnown p hp)⟩
  · intro p hp
    obtain ⟨he, hr⟩ := hv.raritiesKnown p hp
    exact ⟨hv.rarityPairs.lt hp, hentry he, hentry hr⟩
  · intro r
    refine ⟨hv.linksSorted r, fun l hl => ?_⟩
    obtain ⟨hcard, htarget⟩ := hv.linksKnown r l hl
    refine ⟨hcard.lt hv.cards, ?_⟩
    rw [HasTarget] at htarget
    split at htarget
    · exact hentry htarget
    · rcases htarget with ⟨_, h⟩ | ⟨_, h⟩
      · exact h.lt hv.disciplinePairs
      · exact h.lt hv.rarityPairs

theorem CatalogValid.fits_of_knows (hv : db.CatalogValid) {card : CardId}
    {expansion : Option LookupId} (h : db.Knows card expansion) :
    card.Fits ∧ ∀ e ∈ expansion, e.Fits :=
  ⟨h.1.lt hv.cards, fun e he => (h.2 e he).lt (hv.lookups .expansion).numbered⟩

/-! Edits -/

theorem CatalogStorable.of_same (h : db.CatalogStorable) (hsame : SameCatalog db db') :
    db'.CatalogStorable where
  entries kind := by
    rw [lookupEntries, hsame.lookupTable]
    exact h.entries kind
  found kind name id hf := h.found kind name id (hsame.findLookup kind name ▸ hf)
  disciplinePairs := hsame.disciplinePairs ▸ h.disciplinePairs
  rarityPairs := hsame.rarityPairs ▸ h.rarityPairs
  cards := hsame.cards ▸ h.cards
  links r := hsame.relation r ▸ h.links r

theorem HoldingsStorable.addCopies (h : db.HoldingsStorable) (set : CardSetId)
    {printing : PrintingId} (hp : printing.Fits) {k : Nat} (hfit : db.nextCopyId + k < idBound) :
    (db.addCopies set printing k).HoldingsStorable := by
  refine ⟨h.printings, h.cardSets, ?_, h.nextCardSetId, hfit, h.generation⟩
  intro c hc
  rcases List.mem_append.mp hc with hc | hc
  · exact h.copies c hc
  · obtain ⟨id, hid, rfl⟩ := List.mem_map.mp hc
    have hmem : id.val ∈ List.range' db.nextCopyId k :=
      copyIds_val db.nextCopyId k ▸ List.mem_map_of_mem hid
    exact ⟨(List.mem_range'_1.mp hmem).2.trans hfit, hp⟩

theorem HoldingsStorable.printingFor (h : db.HoldingsStorable) {card : CardId}
    {expansion : Option LookupId} (hcard : card.Fits) (hexpansion : ∀ e ∈ expansion, e.Fits) :
    (db.printingFor card expansion).1.HoldingsStorable := by
  rcases printingFor_cases db card expansion with ⟨p, _, _, heq⟩ | ⟨_, heq⟩
  · rw [heq]
    exact h
  · rw [heq]
    refine { h with printings := fun p hp => ?_ }
    rcases List.mem_append.mp hp with hp | hp
    · exact h.printings p hp
    · rw [List.mem_singleton.mp hp]
      exact ⟨RowId.fits_ofPlace _, hcard, hexpansion⟩

theorem HoldingsStorable.modifyCardSet (h : db.HoldingsStorable) (set : CardSetId)
    {f : CardSet → CardSet} (hf : ∀ cs, cs.Fits → (f cs).Fits) :
    (db.modifyCardSet set f).HoldingsStorable := by
  have hsets : ∀ cs ∈ (db.modifyCardSet set f).cardSets, cs.Fits :=
    modifyCardSet_forall h.cardSets hf
  rw [modifyCardSet_eq]
  exact { h with cardSets := hsets }

theorem HoldingsStorable.insertCardSet (h : db.HoldingsStorable) {d : CardSetDraft}
    {id : CardSetId} (hi : db.insertCardSet d = .ok (db', id)) : db'.HoldingsStorable := by
  obtain ⟨_, hparent, hnumber, _, rfl⟩ := insertCardSet_ok hi
  refine { h with cardSets := fun cs hcs => ?_, nextCardSetId := hnumber }
  rcases List.mem_append.mp hcs with hcs | hcs
  · exact h.cardSets cs hcs
  · rw [List.mem_singleton.mp hcs]
    refine ⟨h.nextCardSetId, fun p hp => ?_⟩
    obtain ⟨parent, hmem, rfl⟩ := hparent p hp
    exact (h.cardSets parent hmem).id

/-- Edits keep numbers that can be written, when printings are made of such numbers. -/
theorem Edits.holdingsStorable (h : Edits K db m n db')
    (hk : ∀ {card expansion}, K card expansion → card.Fits ∧ ∀ e ∈ expansion, e.Fits)
    (hs : db.HoldingsStorable) : db'.HoldingsStorable := by
  induction h with
  | none => exact hs
  | printing _ hknown ih => exact ih.printingFor (hk hknown).1 (hk hknown).2
  | @details _ _ _ _ set _ _ _ hd ih =>
    rw [(changeDetails_ok hd).1]
    exact ih.modifyCardSet set fun cs hcs => ⟨hcs.id, hcs.parent⟩
  | @parent _ _ _ set _ _ hparent ih =>
    refine ih.modifyCardSet set fun cs hcs => ⟨hcs.id, fun p hp => ?_⟩
    obtain ⟨parent, hmem, rfl⟩ := hparent p hp
    exact (ih.cardSets parent hmem).id
  | newSet _ hi ih => exact ih.insertCardSet hi
  | newCopies _ hprinting hfit ih =>
    obtain ⟨p, hp, rfl⟩ := hprinting
    exact ih.addCopies _ (ih.printings p hp).id hfit
  | fewerCopies _ ih =>
    exact { ih with copies := fun c hc => ih.copies c ((dropFirst_sublist _ _ _).subset hc) }
  | dropSet _ hr ih =>
    obtain ⟨i, _, _, rfl⟩ := removeCardSet_some hr
    exact { ih with
      cardSets := fun cs hcs => ih.cardSets cs ((List.eraseIdx_sublist _ i).subset hcs)
      copies := fun c hc => ih.copies c (List.mem_of_mem_filter hc) }

theorem HoldingsStorable.refilled (h : db.HoldingsStorable)
    (hgeneration : db.generation + 1 < generationBound) (catalog : Catalog) :
    (db.refilled catalog).HoldingsStorable := by
  have hsame := sameHoldings_refilled db catalog
  refine ⟨?_, hsame.cardSets ▸ h.cardSets, ?_, hsame.nextCardSetId ▸ h.nextCardSetId,
    hsame.nextCopyId ▸ h.nextCopyId, ?_⟩
  · rw [hsame.printings]
    intro p hp
    cases hp
  · rw [hsame.copies]
    intro c hc
    cases hc
  · exact hsame.generation ▸ hgeneration

/-- What is checked before saving settles the sets that copies are in. -/
theorem HoldingsStorable.storable (h : db.HoldingsStorable) (hc : db.CatalogStorable)
    (hvalid : db.validate = .ok ()) : db.Storable where
  toCatalogStorable := hc
  toHoldingsStorable := h
  copySets c hc := by
    obtain ⟨cs, hcs, heq⟩ := (referential_of_validate hvalid).copySets c hc
    exact heq ▸ (h.cardSets cs hcs).id

end Database
end CardBinder
