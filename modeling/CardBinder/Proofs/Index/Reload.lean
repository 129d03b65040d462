import CardBinder.Proofs.Database.Storable
import CardBinder.Proofs.Index.Exact

/-! A database that is stored without its index and loaded again answers as before. -/

namespace CardBinder

/-- The numbers that come with a change can be written, as those of a fixed width always can. -/
def RowChange.Fits : RowChange → Prop
  | .addCard c => (Database.cardOfRecord c).NumbersFit
  | .loadCatalog catalog => catalog.NumbersFit
  | .link card _ target => card.Fits ∧ target < idBound
  | .printingFor card expansion => card.Fits ∧ ∀ e ∈ expansion, e.Fits
  | .addCopy set printing => set.Fits ∧ printing.Fits
  | _ => True

namespace Database
variable {db : Database} {card : CardId}

/-- Every number can be written, and names lead to entries that are there. -/
structure Writable (db : Database) : Prop extends db.Storable where
  lookups : ∀ kind, (db.lookupTable kind).Indexed

theorem writable_empty : empty.Writable where
  toStorable := storable_empty
  lookups := catalogValid_empty.lookups

/-! The catalog -/

theorem Writable.addLookup (h : db.Writable) (kind : LookupKind) (name : String)
    (otherName : Option String) :
    (db.addLookup kind name otherName).1.Writable ∧ (db.addLookup kind name otherName).2.Fits := by
  have hnew : ∀ kind', ((db.addLookup kind name otherName).1.lookupTable kind').Indexed := by
    intro kind'
    rw [lookupTable_addLookup]
    split
    · exact (h.lookups kind).getOrCreate
    · exact h.lookups kind'
  refine ⟨{ h with lookups := hnew, entries := ?_, found := ?_ }, ?_⟩
  · exact fun kind' e he => (hnew kind').numbered.lt he
  · exact fun kind' name' id hid => ((hnew kind').leads _ id hid).lt (hnew kind').numbered
  · exact (h.lookups kind).getOrCreate_leads.lt (h.lookups kind).getOrCreate.numbered

theorem Writable.addDisciplinePair (h : db.Writable) {discipline : LookupId}
    (hd : discipline.Fits) (level : DisciplineLevel) :
    (db.addDisciplinePair discipline level).1.Writable ∧
      (db.addDisciplinePair discipline level).2.Fits := by
  rw [Database.addDisciplinePair]
  cases hf : db.findDisciplinePair discipline level with
  | some id =>
    obtain ⟨p, hp, rfl⟩ := Option.map_eq_some_iff.mp hf
    exact ⟨h, (h.disciplinePairs p (List.mem_of_find?_eq_some hp)).id⟩
  | none =>
    refine ⟨{ h with disciplinePairs := fun p hp => ?_ }, RowId.fits_ofPlace _⟩
    rcases List.mem_append.mp hp with hp | hp
    · exact h.disciplinePairs p hp
    · rw [List.mem_singleton.mp hp]
      exact ⟨RowId.fits_ofPlace _, hd⟩

theorem Writable.addRarityPair (h : db.Writable) {expansion rarity : LookupId}
    (he : expansion.Fits) (hr : rarity.Fits) :
    (db.addRarityPair expansion rarity).1.Writable ∧
      (db.addRarityPair expansion rarity).2.Fits := by
  rw [Database.addRarityPair]
  cases hf : db.findRarityPair expansion rarity with
  | some id =>
    obtain ⟨p, hp, rfl⟩ := Option.map_eq_some_iff.mp hf
    exact ⟨h, (h.rarityPairs p (List.mem_of_find?_eq_some hp)).id⟩
  | none =>
    refine ⟨{ h with rarityPairs := fun p hp => ?_ }, RowId.fits_ofPlace _⟩
    rcases List.mem_append.mp hp with hp | hp
    · exact h.rarityPairs p hp
    · rw [List.mem_singleton.mp hp]
      exact ⟨RowId.fits_ofPlace _, he, hr⟩

theorem Writable.link (h : db.Writable) (hc : card.Fits) (r : Relation) {target : Nat}
    (ht : target < idBound) : (db.link card r target).Writable := by
  refine { h with links := fun r' => ?_ }
  rw [Database.link, relation_set]
  split
  · refine ⟨(h.links r).1.insert card target, fun l hl => ?_⟩
    rcases LinkTable.mem_insertInto.mp hl with rfl | hl
    · exact ⟨hc, ht⟩
    · exact (h.links r).2 l hl
  · exact h.links r'

theorem Writable.linkName (h : db.Writable) (hc : card.Fits) (r : Relation) (kind : LookupKind)
    (name : String) : (linkName card r kind db name).Writable := by
  obtain ⟨hnamed, hid⟩ := h.addLookup kind name none
  exact hnamed.link hc r hid

theorem Writable.linkDiscipline (h : db.Writable) (hc : card.Fits) (d : DisciplineRecord) :
    (linkDiscipline card db d).Writable := by
  obtain ⟨hnamed, hid⟩ := h.addLookup .discipline d.name none
  obtain ⟨hpaired, hpair⟩ := hnamed.addDisciplinePair hid d.level
  exact hpaired.link hc .discipline hpair

theorem Writable.linkRarity (h : db.Writable) (hc : card.Fits) (r : RarityRecord) :
    (linkRarity card db r).Writable := by
  obtain ⟨hexpansion, he⟩ := h.addLookup .expansion r.expansion none
  obtain ⟨hrarity, hr⟩ := hexpansion.addLookup .rarity r.rarity none
  obtain ⟨hpaired, hpair⟩ := hrarity.addRarityPair he hr
  exact hpaired.link hc .rarity hpair

theorem Writable.foldl {β : Type} {f : Database → β → Database} (h : db.Writable) (bs : List β)
    (hf : ∀ db b, db.Writable → (f db b).Writable) : (bs.foldl f db).Writable :=
  List.foldlRecOn (motive := Writable) bs f h fun db h b _ => hf db b h

theorem Writable.linkRecord (h : db.Writable) (hc : card.Fits) (c : CardRecord) :
    (db.linkRecord card c).Writable := by
  have hnames := h.foldl c.names fun db (n : Relation × LookupKind × List String) h =>
    h.foldl n.2.2 fun _ name h => h.linkName hc n.1 n.2.1 name
  have hdisciplines := hnames.foldl c.disciplines fun _ d h => h.linkDiscipline hc d
  exact hdisciplines.foldl c.rarities fun _ r h => h.linkRarity hc r

theorem Writable.pushCard (h : db.Writable) {c : Card} (hc : c.NumbersFit) {db' : Database}
    {id : CardId} (hpush : db.pushCard c = .ok (db', id)) : db'.Writable ∧ id.Fits := by
  rw [Database.pushCard] at hpush
  split at hpush
  · cases hpush
  · obtain ⟨rfl, rfl⟩ := Prod.mk.inj (Except.ok.inj hpush)
    refine ⟨{ h with cards := fun x hx => ?_ }, RowId.fits_ofPlace _⟩
    rcases List.mem_append.mp hx with hx | hx
    · exact h.cards x hx
    · rw [List.mem_singleton.mp hx]
      exact ⟨RowId.fits_ofPlace _, hc.group, hc.capacity, hc.cost, hc.life⟩

theorem Writable.addCard (h : db.Writable) {c : CardRecord} (hc : (cardOfRecord c).NumbersFit)
    {db' : Database} {id : CardId} (hadd : db.addCard c = .ok (db', id)) : db'.Writable := by
  obtain ⟨⟨pushed, id'⟩, hpush, hadd⟩ := Outcome.bind_ok hadd
  obtain ⟨rfl, _⟩ := Prod.mk.inj (Except.ok.inj hadd)
  obtain ⟨hpushed, hid⟩ := h.pushCard hc hpush
  exact hpushed.linkRecord hid c

theorem Writable.addCards (h : db.Writable) {cs : List CardRecord}
    (hcs : ∀ c ∈ cs, (cardOfRecord c).NumbersFit) (added : Nat) :
    (db.addCards added cs).1.Writable := by
  induction cs generalizing db added with
  | nil => exact h
  | cons c cs ih =>
    rw [Database.addCards]
    split
    · rename_i hadd
      exact ih (h.addCard (hcs c List.mem_cons_self) hadd)
        (fun c' hc' => hcs c' (List.mem_cons_of_mem c hc')) (added + 1)
    · exact h

theorem Writable.loadCatalog (h : db.Writable) {catalog : Catalog} (hfit : catalog.NumbersFit) :
    (db.loadCatalog catalog).1.Writable :=
  (h.foldl catalog.lookups fun _ r h => (h.addLookup r.kind r.name r.otherName).1).addCards hfit 0

theorem Writable.resetCatalog (h : db.Writable) (hnext : db.generation + 1 < generationBound) :
    db.resetCatalog.Writable where
  toStorable := { storable_empty with
    cardSets := h.cardSets
    nextCardSetId := h.nextCardSetId
    nextCopyId := h.nextCopyId
    generation := hnext }
  lookups := catalogValid_empty.lookups

/-! Every change -/

theorem Writable.of_holdings {db' : Database} (h : db.Writable) (hsame : SameCatalog db db')
    (hholdings : db'.HoldingsStorable) (hsets : ∀ c ∈ db'.copies, c.cardSet.Fits) :
    db'.Writable where
  toCatalogStorable := h.toCatalogStorable.of_same hsame
  toHoldingsStorable := hholdings
  copySets := hsets
  lookups kind := by
    rw [hsame.lookupTable]
    exact h.lookups kind

theorem Writable.apply (h : db.Writable) {change : RowChange} (hfit : change.Fits) :
    (db.apply change).Writable := by
  cases change with
  | addLookup kind name otherName => exact (h.addLookup kind name otherName).1
  | addCard c =>
    simp only [Database.apply]
    split
    · rename_i hadd
      exact h.addCard hfit hadd
    · exact h
  | loadCatalog catalog => exact h.loadCatalog hfit
  | link card r target => exact h.link hfit.1 r hfit.2
  | printingFor card expansion =>
    have hholdings := h.toHoldingsStorable.printingFor hfit.1 hfit.2
    simp only [Database.apply]
    rw [printingFor_eq] at hholdings ⊢
    exact h.of_holdings ⟨rfl, rfl, rfl, rfl, rfl, rfl⟩ hholdings h.copySets
  | insertCardSet d =>
    simp only [Database.apply]
    split
    · rename_i hd
      have hholdings := h.toHoldingsStorable.insertCardSet hd
      obtain ⟨_, _, _, _, rfl⟩ := insertCardSet_ok hd
      exact h.of_holdings ⟨rfl, rfl, rfl, rfl, rfl, rfl⟩ hholdings h.copySets
    · exact h
  | addCopy set printing =>
    simp only [Database.apply]
    split
    · rename_i hcheck
      have hnumber : db.nextCopyId + 1 < idBound := checkCounter_ok_iff.mp hcheck
      refine h.of_holdings ⟨rfl, rfl, rfl, rfl, rfl, rfl⟩
        (h.toHoldingsStorable.addCopies set hfit.2 hnumber) fun c hc => ?_
      rcases List.mem_append.mp hc with hc | hc
      · exact h.copySets c hc
      · rw [List.mem_singleton.mp hc]
        exact hfit.1
    · exact h
  | removeCopies set printing n =>
    have hkept : ∀ c ∈ (db.removeCopies set printing n).1.copies, c ∈ db.copies :=
      fun c hc => (dropFirst_sublist _ _ _).subset hc
    exact h.of_holdings ⟨rfl, rfl, rfl, rfl, rfl, rfl⟩
      { h.toHoldingsStorable with copies := fun c hc => h.copies c (hkept c hc) }
      fun c hc => h.copySets c (hkept c hc)
  | removeCardSet set =>
    simp only [Database.apply]
    cases hd : db.removeCardSet set with
    | none => exact h
    | some removed =>
      obtain ⟨i, _, _, hdb⟩ := removeCardSet_some hd
      rw [Option.map_some, Option.getD_some, hdb]
      exact h.of_holdings ⟨rfl, rfl, rfl, rfl, rfl, rfl⟩
        { h.toHoldingsStorable with
          cardSets := fun cs hcs => h.cardSets cs ((List.eraseIdx_sublist _ i).subset hcs)
          copies := fun c hc => h.copies c (List.mem_of_mem_filter hc) }
        fun c hc => h.copySets c (List.mem_of_mem_filter hc)
  | resetCatalog =>
    simp only [Database.apply]
    split
    · rename_i hcheck
      exact h.resetCatalog (checkCounter_ok_iff.mp hcheck)
    · exact h

theorem Writable.run (h : db.Writable) {changes : List RowChange} (hfit : ∀ c ∈ changes, c.Fits) :
    (changes.foldl Database.apply db).Writable :=
  List.foldlRecOn (motive := Writable) changes _ h fun _ h c hc => h.apply (hfit c hc)

end Database

namespace IndexedDatabase
variable {x : IndexedDatabase} {db : Database}

/-- An exact index answers what going through the rows does. -/
theorem Tracks.answers_eq (h : x.Tracks db) (hsorted : ∀ r, (db.relation r).Sorted) :
    x.answers = db.answers := by
  have hcard : x.findCard = db.findCard := by
    funext name
    simp only [IndexedDatabase.findCard, h.cardWithKey?_eq]
    rfl
  have hprinting : x.findPrinting = db.findPrinting := by
    funext card expansion
    exact h.findPrinting_eq card expansion
  have hreverse : x.reverse = fun r => (db.relation r).reverse := by
    funext r target
    exact BackTable.cards_eq (h.exact.ascend r) (hsorted r) (h.exact.transposes r) target
  obtain ⟨rfl, _⟩ := h
  rw [answers, Database.answers, hcard, hprinting, hreverse]
  rfl

/-- An index that is made anew is exact for the tables that were read. -/
theorem Tracks.reloaded (h : x.Tracks db) (hsorted : ∀ r, (db.relation r).Sorted) :
    (ofTables db.reindexed).Tracks db.reindexed where
  tables := rfl
  exact := (h.exact.anew hsorted).of_same ⟨rfl, rfl, rfl⟩

/-- After any changes the index is exact, and storing the tables, loading them and making the index
anew changes no answer. -/
theorem reload_answers (changes : List RowChange) (hfit : ∀ c ∈ changes, c.Fits) :
    (changes.foldl apply empty).Tracks (changes.foldl Database.apply .empty) ∧
      (changes.foldl apply empty).answers = (changes.foldl Database.apply .empty).answers ∧
      ∃ db, Database.ofJson? (changes.foldl apply empty).tables.toJson = some db ∧
        (ofTables db).index.Exact db ∧
        (ofTables db).answers = (changes.foldl apply empty).answers := by
  have htracks := tracks_empty.run changes
  have hwritable := Database.writable_empty.run hfit
  have hsorted := fun r => (hwritable.links r).1
  have hreloaded := htracks.reloaded hsorted
  refine ⟨htracks, htracks.answers_eq hsorted, _, ?_, hreloaded.exact, ?_⟩
  · rw [htracks.tables]
    exact Database.ofJson?_toJson hwritable.toStorable
  · rw [htracks.answers_eq hsorted]
    exact hreloaded.answers_eq hsorted

/-- The second card is refused, the second printing is there already, and the set does not stay. -/
def kennelChanges : List RowChange :=
  [.addLookup .clan "Gangrel" none,
    .addCard { name := "The Dog", rarities := [⟨"Jyhad", "Common"⟩] },
    .addCard { name := "the dog" },
    .link ⟨0⟩ .clan 0,
    .printingFor ⟨0⟩ none,
    .printingFor ⟨0⟩ none,
    .insertCardSet { name := "Pack" },
    .addCopy ⟨0⟩ ⟨0⟩,
    .removeCardSet ⟨0⟩]

theorem reload_answers_kennel :
    (∃ db, Database.ofJson? (kennelChanges.foldl apply empty).tables.toJson = some db ∧
      (ofTables db).answers = (kennelChanges.foldl apply empty).answers) ∧
    (kennelChanges.foldl apply empty).findCard "Dog, The" = some ⟨0⟩ ∧
    (kennelChanges.foldl apply empty).findPrinting ⟨0⟩ none = some ⟨0⟩ ∧
    (kennelChanges.foldl apply empty).reverse .clan 0 = [⟨0⟩] := by
  refine ⟨?_, by decide +kernel, by decide +kernel, by decide +kernel⟩
  have hfit : ∀ c ∈ kennelChanges, c.Fits := by
    have hdog : (Database.cardOfRecord
        { name := "The Dog", rarities := [⟨"Jyhad", "Common"⟩] }).NumbersFit :=
      ⟨nofun, nofun, nofun, nofun⟩
    have hagain : (Database.cardOfRecord { name := "the dog" }).NumbersFit :=
      ⟨nofun, nofun, nofun, nofun⟩
    simp [kennelChanges, RowChange.Fits, RowId.Fits, idBound, hdog, hagain]
  obtain ⟨-, -, db, hread, -, hanswers⟩ := reload_answers kennelChanges hfit
  exact ⟨db, hread, hanswers⟩

end IndexedDatabase
end CardBinder
