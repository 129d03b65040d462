import CardBinder.Proofs.Database.Storable

/-! The databases that loading catalogs and working on card sets lead to, and what holds of all of them. -/

namespace CardBinder.Database
variable {db : Database}

/-- Made by loading catalogs and working on card sets. What is left by a load that was refused counts
too. -/
inductive Stocked : Database → Prop
  | empty : Stocked empty
  | loadCatalog {db : Database} {catalog : Catalog} :
      Stocked db → catalog.NumbersFit → Stocked (db.loadCatalog catalog).1
  | resetCatalog {db : Database} : Stocked db → Stocked db.resetCatalog
  | edits {db db' : Database} {m n : Nat} :
      Stocked db → Edits db.Knows db m n db' → Stocked db'

theorem Orderly.loadCatalog (ho : db.Orderly) (catalog : Catalog) :
    (db.loadCatalog catalog).1.Orderly := by
  have hsame := sameHoldings_loadCatalog db catalog
  have hg := grows_loadCatalog db catalog
  exact
    { ho.toCatalogValid.loadCatalog catalog with
      printings := hsame.printings ▸ ho.printings
      printingsOnce := hsame.printings ▸ ho.printingsOnce
      printingsKnown := fun p hp => (ho.printingsKnown p (hsame.printings ▸ hp)).imp (hg.cards _)
        fun h e he => hg.entries _ _ (h e he)
      cardSets := by
        rw [hsame.cardSets, hsame.nextCardSetId]
        exact ho.cardSets
      cardSetsFit := hsame.nextCardSetId ▸ ho.cardSetsFit
      names := hsame.cardSets ▸ ho.names
      copies := by
        rw [hsame.copies, hsame.nextCopyId]
        exact ho.copies
      copiesFit := hsame.nextCopyId ▸ ho.copiesFit }

theorem Stocked.orderly (h : db.Stocked) : db.Orderly := by
  induction h with
  | empty => exact orderly_empty
  | loadCatalog _ _ ih => exact ih.loadCatalog _
  | resetCatalog _ ih => exact ih.emptied { catalogValid_empty with } rfl rfl rfl rfl rfl
  | edits _ h ih => exact h.orderly ih

/-- The numbers on the cards are ones that can be read and written. -/
theorem Stocked.numbersFit (h : db.Stocked) : ∀ c ∈ db.cards, c.NumbersFit := by
  induction h with
  | empty => simp [Database.empty]
  | @loadCatalog db catalog _ hfit ih =>
    refine numbersFit_addCards ?_ hfit 0
    have hlookups : (catalog.lookups.foldl addLookupRecord db).cards = db.cards :=
      cards_foldl (f := addLookupRecord) (fun _ _ => rfl) catalog.lookups db
    rwa [hlookups]
  | resetCatalog => simp [Database.resetCatalog, Database.empty]
  | edits _ h ih => exact h.sameCatalog.cards ▸ ih

/-- Every card is the row of a card of some catalog. -/
theorem Stocked.exists_record (h : db.Stocked) :
    ∀ c ∈ db.cards, ∃ r id, c = { cardOfRecord r with id } := by
  induction h with
  | empty => simp [Database.empty]
  | @loadCatalog db catalog _ _ ih =>
    intro c hc
    have hlookups : (catalog.lookups.foldl addLookupRecord db).cards = db.cards :=
      cards_foldl (f := addLookupRecord) (fun _ _ => rfl) catalog.lookups db
    rcases mem_cards_addCards hc with hc | ⟨r, _, id, rfl⟩
    · exact ih c (hlookups ▸ hc)
    · exact ⟨r, id, rfl⟩
  | resetCatalog => simp [Database.resetCatalog, Database.empty]
  | edits _ h ih => exact h.sameCatalog.cards ▸ ih

/-- The text that is searched is the printed one without braces. -/
theorem Stocked.searchText (h : db.Stocked) :
    ∀ c ∈ db.cards, c.searchText = CardBinder.searchText c.text := by
  intro c hc
  obtain ⟨r, id, rfl⟩ := h.exists_record c hc
  rfl

theorem Stocked.canonicalName_eq (h : db.Stocked) :
    ∀ c ∈ db.cards, c.canonicalName = CardBinder.canonicalName c.name := by
  intro c hc
  obtain ⟨r, id, rfl⟩ := h.exists_record c hc
  exact (canonicalName_trim r.name).symm

theorem Stocked.inPlace (h : db.Stocked) (hf : db.Fits) : db.InPlace :=
  h.orderly.inPlace hf

/-! A stocked database -/

/-- A vampire in two disciplines and three printings, and an ally with a variable cost. -/
def shelfCatalog : Catalog where
  lookups := [⟨.clan, "Ventrue", some "Ven"⟩]
  cards := [
    { name := "Alan", group := some 2, capacity := some 4, cardTypes := ["Vampire"],
      clans := ["Ven", "Brujah"], sects := ["Camarilla"], titles := ["Prince"],
      disciplines := [⟨"Potence", .superior⟩, ⟨"Celerity", .inferior⟩],
      rarities := [⟨"Jyhad", "Rare"⟩, ⟨"Jyhad", "Common"⟩, ⟨"Sabbat", "Rare"⟩],
      artists := ["Lesley"] },
    { name := "Dog", cost := some (-1), costType := some .pool, life := some 1,
      cardTypes := ["Ally"], disciplines := [⟨"Potence", .inferior⟩],
      rarities := [⟨"Sabbat", "Common"⟩], keywords := ["animal"] }]

/-- With a new deck that holds two copies of the first card. -/
def withDeck (db : Database) : Database :=
  let (db, printing) := Database.printingFor
    { db with
      cardSets := db.cardSets ++ [({ name := "Deck" } : CardSetDraft).toCardSet ⟨db.nextCardSetId⟩]
      nextCardSetId := db.nextCardSetId + 1 } ⟨0⟩ (some ⟨0⟩)
  db.addCopies ⟨0⟩ printing 2

theorem Stocked.withDeck (h : db.Stocked) (hknows : db.Knows ⟨0⟩ (some ⟨0⟩))
    (hfree : db.findCardSet "Deck" = none) (hset : db.nextCardSetId + 1 < idBound)
    (hcopies : db.nextCopyId + 2 < idBound) : db.withDeck.Stocked := by
  have hinsert := insertCardSet_of_number (d := { name := "Deck" }) hfree (by simp) hset
  have hprinting := (Edits.none.newSet hinsert).printing hknows
  have hedits : Edits db.Knows db (0 + 1) (0 + 2) db.withDeck :=
    hprinting.newCopies (printingFor_mem _ _ _) (by rw [nextCopyId_printingFor]; exact hcopies)
  exact h.edits hedits

def shelf : Database :=
  (empty.loadCatalog shelfCatalog).1.withDeck

theorem stocked_shelf : shelf.Stocked := by
  have hload : (empty.loadCatalog shelfCatalog).1.Stocked :=
    .loadCatalog .empty (by decide +kernel)
  have hv := hload.orderly.toCatalogValid
  have hcard : (empty.loadCatalog shelfCatalog).1.HasCard ⟨0⟩ :=
    hv.hasCard_findCard (show Database.findCard _ "Alan" = _ by decide +kernel)
  have hexpansion : (empty.loadCatalog shelfCatalog).1.HasEntry .expansion ⟨0⟩ :=
    hv.hasEntry_findLookup (show Database.findLookup _ _ "Jyhad" = _ by decide +kernel)
  exact hload.withDeck ⟨hcard, by simpa using hexpansion⟩ (by decide +kernel) (by decide +kernel)
    (by decide +kernel)

theorem fits_shelf : shelf.Fits := by
  have hentries : ∀ kind ∈ LookupKind.all, (shelf.lookupEntries kind).length ≤ idBound := by
    decide +kernel
  have htables : shelf.disciplinePairs.length ≤ idBound ∧ shelf.rarityPairs.length ≤ idBound ∧
      shelf.cards.length ≤ idBound ∧ shelf.printings.length ≤ idBound := by
    decide +kernel
  exact ⟨fun kind => hentries kind (by cases kind <;> decide), htables.1, htables.2.1,
    htables.2.2.1, htables.2.2.2⟩

end CardBinder.Database
