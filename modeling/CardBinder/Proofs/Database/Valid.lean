import CardBinder.Proofs.Catalog.Load
import CardBinder.Proofs.Forest.Ancestry

/-! What holds of a whole database: the order of its tables, which each step keeps, and the references
between them, which are checked before it is saved. -/

namespace CardBinder.Database
variable {db : Database}

/-- Rows are in their places, stored once, and printings are of cards that are known. -/
structure Orderly (db : Database) : Prop extends db.CatalogValid where
  printings : Numbered (·.id.val) db.printings
  printingsOnce : (db.printings.map fun p => (p.card, p.expansion)).Nodup
  printingsKnown : ∀ p ∈ db.printings, db.Knows p.card p.expansion
  cardSets : InOrder (·.id.val) db.cardSets db.nextCardSetId
  cardSetsFit : db.nextCardSetId < idBound
  names : (db.cardSets.map (·.name)).Nodup
  copies : InOrder (·.id.val) db.copies db.nextCopyId
  copiesFit : db.nextCopyId < idBound

/-- The sets and the copies are numbered in order, and each counter is ahead of its table. -/
structure CountersAhead (db : Database) : Prop where
  cardSets : InOrder (·.id.val) db.cardSets db.nextCardSetId
  cardSetsFit : db.nextCardSetId < idBound
  copies : InOrder (·.id.val) db.copies db.nextCopyId
  copiesFit : db.nextCopyId < idBound

/-- There are numbers for `m` sets and `n` copies, and one more for each counter to stand at. -/
def HasNumbers (db : Database) (m n : Nat) : Prop :=
  db.nextCardSetId + m < idBound ∧ db.nextCopyId + n < idBound

instance {db : Database} {m n : Nat} : Decidable (db.HasNumbers m n) :=
  inferInstanceAs (Decidable (_ ∧ _))

/-- A new set asks for its own number first, and for those of its copies when they are in. -/
theorem checkCounters_eq {α : Type} (db : Database) (n : Nat) (a : α) :
    (do
      checkCounter idBound (db.nextCardSetId + 1)
      checkCounter idBound (db.nextCopyId + n)
      return a : Outcome α) = if db.HasNumbers 1 n then .ok a else .error .outOfNumbers := by
  rw [checkCounter, checkCounter]
  by_cases hset : db.nextCardSetId + 1 < idBound
  · by_cases hcopies : db.nextCopyId + n < idBound
    · have hnumbers : db.HasNumbers 1 n := ⟨hset, hcopies⟩
      rw [if_pos hset, if_pos hcopies, if_pos hnumbers]
      rfl
    · have hnumbers : ¬ db.HasNumbers 1 n := fun h => hcopies h.2
      rw [if_pos hset, if_neg hcopies, if_neg hnumbers]
      rfl
  · have hnumbers : ¬ db.HasNumbers 1 n := fun h => hset h.1
    rw [if_neg hset, if_neg hnumbers]
    rfl

/-- Parents exist and do not run in a loop, and copies are of printings that exist, in sets that exist. -/
structure Referential (db : Database) : Prop where
  parents : ∀ cs ∈ db.cardSets, ∀ parent ∈ cs.parent, ∃ p ∈ db.cardSets, p.id = parent
  acyclic : db.Acyclic
  copySets : ∀ c ∈ db.copies, ∃ cs ∈ db.cardSets, cs.id = c.cardSet
  copyPrintings : ∀ c ∈ db.copies, (db.printing? c.printing).isSome

structure Valid (db : Database) : Prop extends db.Orderly, db.Referential

/-- No table with a row for each number has more rows than there are numbers. -/
structure Fits (db : Database) : Prop where
  entries : ∀ kind, (db.lookupEntries kind).length ≤ idBound
  disciplinePairs : db.disciplinePairs.length ≤ idBound
  rarityPairs : db.rarityPairs.length ≤ idBound
  cards : db.cards.length ≤ idBound
  printings : db.printings.length ≤ idBound

/-- The numbers of the rows are their places. -/
structure InPlace (db : Database) : Prop where
  entries : ∀ kind, Placed (·.id.val) (db.lookupEntries kind)
  disciplinePairs : Placed (·.id.val) db.disciplinePairs
  rarityPairs : Placed (·.id.val) db.rarityPairs
  cards : Placed (·.id.val) db.cards
  printings : Placed (·.id.val) db.printings

theorem orderly_empty : empty.Orderly where
  toCatalogValid := catalogValid_empty
  printings := numbered_nil
  printingsOnce := List.nodup_nil
  printingsKnown := by simp [empty]
  cardSets := inOrder_nil
  cardSetsFit := by decide
  names := List.nodup_nil
  copies := inOrder_nil
  copiesFit := by decide

theorem Orderly.countersAhead (h : db.Orderly) : db.CountersAhead :=
  ⟨h.cardSets, h.cardSetsFit, h.copies, h.copiesFit⟩

/-- No set has the number that is given out next. -/
theorem CountersAhead.fresh (h : db.CountersAhead) :
    ∀ cs ∈ db.cardSets, cs.id ≠ ⟨db.nextCardSetId⟩ :=
  fun cs hcs heq => Nat.ne_of_lt (h.cardSets.below cs hcs) (congrArg RowId.val heq)

theorem Orderly.inPlace (h : db.Orderly) (hf : db.Fits) : db.InPlace where
  entries kind := (h.lookups kind).numbered.placed (hf.entries kind)
  disciplinePairs := h.toCatalogValid.disciplinePairs.placed hf.disciplinePairs
  rarityPairs := h.toCatalogValid.rarityPairs.placed hf.rarityPairs
  cards := h.cards.placed hf.cards
  printings := h.printings.placed hf.printings

theorem InPlace.printing?_eq_some_iff (h : db.InPlace) {id : PrintingId} {p : Printing} :
    db.printing? id = some p ↔ p ∈ db.printings ∧ p.id = id := by
  constructor
  · intro hp
    exact ⟨List.mem_of_getElem? hp, RowId.ext (h.printings _ _ hp)⟩
  · rintro ⟨hp, rfl⟩
    exact h.printings.getElem?_key hp

theorem InPlace.card?_eq_some_iff (h : db.InPlace) {id : CardId} {c : Card} :
    db.card? id = some c ↔ c ∈ db.cards ∧ c.id = id := by
  constructor
  · intro hc
    exact ⟨List.mem_of_getElem? hc, RowId.ext (h.cards _ _ hc)⟩
  · rintro ⟨hc, rfl⟩
    exact h.cards.getElem?_key hc

theorem InPlace.printingIds_nodup (h : db.InPlace) : (db.printings.map (·.id)).Nodup := by
  refine List.Nodup.of_map (f := RowId.val) ?_
  rw [List.map_map]
  exact h.printings.inOrder.nodup

theorem InPlace.cardIds_nodup (h : db.InPlace) : (db.cards.map (·.id)).Nodup := by
  refine List.Nodup.of_map (f := RowId.val) ?_
  rw [List.map_map]
  exact h.cards.inOrder.nodup

/-- The card of a printing has a row. -/
theorem Orderly.exists_card (h : db.Orderly) {p : Printing} (hp : p ∈ db.printings) :
    ∃ c ∈ db.cards, c.id = p.card := by
  obtain ⟨c, hc, hid⟩ := (h.printingsKnown p hp).1
  exact ⟨c, List.mem_of_getElem? hc, RowId.ext hid⟩

theorem cardSet?_some {id : CardSetId} {cs : CardSet} (h : db.cardSet? id = some cs) :
    cs ∈ db.cardSets ∧ cs.id = id :=
  (rowAt?_some h).imp_right RowId.ext

theorem cardSet?_eq_some_iff (h : InOrder (·.id.val) db.cardSets db.nextCardSetId)
    {id : CardSetId} {cs : CardSet} :
    db.cardSet? id = some cs ↔ cs ∈ db.cardSets ∧ cs.id = id := by
  rw [cardSet?, rowAt?_eq_some_iff h, RowId.ext_iff]

theorem getCardSet_eq_ok_iff {id : CardSetId} {cs : CardSet} :
    db.getCardSet id = .ok cs ↔ db.cardSet? id = some cs := by
  rw [getCardSet]
  split <;> simp_all

theorem getCardSet_ok {id : CardSetId} {cs : CardSet} (h : db.getCardSet id = .ok cs) :
    cs ∈ db.cardSets ∧ cs.id = id :=
  cardSet?_some (getCardSet_eq_ok_iff.mp h)

theorem getCardSet_error {id : CardSetId} {failure : Failure}
    (h : db.getCardSet id = .error failure) :
    db.cardSet? id = none ∧ failure = .setNotFound ("#" ++ toString id) := by
  rw [getCardSet] at h
  split at h
  · cases h
  · rename_i hcs
    exact ⟨hcs, (Except.error.inj h).symm⟩

theorem validate_eq_ok_iff : db.validate = .ok () ↔
    db.missingParent? = none ∧ db.danglingCopy? = none ∧ db.Acyclic := by
  rw [← checkForest_eq_ok_iff]
  rw [validate, checkIntegrity]
  cases hp : db.missingParent? with
  | some failure =>
    constructor
    · intro h
      cases h
    · rintro ⟨h, _⟩
      cases h
  | none =>
    cases hd : db.danglingCopy? with
    | some failure =>
      constructor
      · intro h
        cases h
      · rintro ⟨_, h, _⟩
        cases h
    | none => exact ⟨fun h => ⟨rfl, rfl, h⟩, fun h => h.2.2⟩

/-- The check before saving, whatever order the rows are in. -/
theorem referential_of_validate (h : db.validate = .ok ()) : db.Referential := by
  obtain ⟨hp, hd, hacyclic⟩ := validate_eq_ok_iff.mp h
  have hcopies : ∀ c ∈ db.copies,
      (db.cardSet? c.cardSet).isSome ∧ (db.printing? c.printing).isSome := by
    intro c hc
    have hnone := List.findSome?_eq_none_iff.mp hd c hc
    split at hnone
    · rename_i hboth
      simpa using hboth
    · cases hnone
  refine ⟨?_, hacyclic, ?_, fun c hc => (hcopies c hc).2⟩
  · intro cs hcs parent hparent
    have hnone := List.findSome?_eq_none_iff.mp hp cs hcs
    rw [Option.mem_def.mp hparent] at hnone
    simp only at hnone
    split at hnone
    · rename_i p hp'
      exact ⟨p, cardSet?_some hp'⟩
    · cases hnone
  · intro c hc
    obtain ⟨cs, hcs⟩ := Option.isSome_iff_exists.mp (hcopies c hc).1
    exact ⟨cs, cardSet?_some hcs⟩

theorem isSome_cardSet? {next : Nat} (hs : InOrder (·.id.val) db.cardSets next) {id : CardSetId}
    (h : ∃ cs ∈ db.cardSets, cs.id = id) : (db.cardSet? id).isSome := by
  obtain ⟨cs, hcs, rfl⟩ := h
  have hfound : db.cardSet? cs.id = some cs := (rowAt?_eq_some_iff hs).mpr ⟨hcs, rfl⟩
  rw [hfound, Option.isSome_some]

/-- Where the sets are in order, what refers to rows that exist passes the check before saving. -/
theorem Referential.validate {next : Nat} (h : db.Referential)
    (hs : InOrder (·.id.val) db.cardSets next) : db.validate = .ok () := by
  refine validate_eq_ok_iff.mpr ⟨?_, ?_, h.acyclic⟩
  · refine List.findSome?_eq_none_iff.mpr fun cs hcs => ?_
    cases hparent : cs.parent with
    | none => rfl
    | some parent =>
      have hsome := isSome_cardSet? hs (h.parents cs hcs parent hparent)
      obtain ⟨row, hrow⟩ := Option.isSome_iff_exists.mp hsome
      simp only [hrow]
  · refine List.findSome?_eq_none_iff.mpr fun c hc => if_pos ?_
    rw [isSome_cardSet? hs (h.copySets c hc), h.copyPrintings c hc]
    rfl

/-- The order that every step keeps and the check before saving together. -/
theorem Orderly.valid (h : db.Orderly) (hv : db.validate = .ok ()) : db.Valid where
  toOrderly := h
  toReferential := referential_of_validate hv

/-! A valid database -/

/-- A collection of one card in two printings, with two decks built out of it. -/
def binder : Database :=
  let row (id : Nat) (name : String) (parent : Option CardSetId) : CardSet :=
    { id := ⟨id⟩, name, author := "", comment := "", annotations := "", inUse := false, parent }
  { (empty.loadCatalog
      { cards := [{ name := "Dog", rarities := [⟨"Jyhad", "Common"⟩] }] }).1 with
    printings := [⟨⟨0⟩, ⟨0⟩, none⟩, ⟨⟨1⟩, ⟨0⟩, some ⟨0⟩⟩]
    cardSets := [row 0 "Pack" none, row 1 "Hounds" (some ⟨0⟩), row 2 "Herders" (some ⟨0⟩)]
    copies := [⟨⟨0⟩, ⟨0⟩, ⟨0⟩⟩, ⟨⟨1⟩, ⟨0⟩, ⟨1⟩⟩, ⟨⟨2⟩, ⟨0⟩, ⟨1⟩⟩, ⟨⟨3⟩, ⟨1⟩, ⟨0⟩⟩,
      ⟨⟨4⟩, ⟨1⟩, ⟨1⟩⟩, ⟨⟨5⟩, ⟨2⟩, ⟨1⟩⟩]
    nextCardSetId := 3
    nextCopyId := 6 }

theorem catalogValid_binder : binder.CatalogValid :=
  (catalogValid_empty.loadCatalog _).of_same ⟨rfl, rfl, rfl, rfl, rfl, rfl⟩

theorem orderly_binder : binder.Orderly where
  toCatalogValid := catalogValid_binder
  printings := by
    have hfirst : Numbered (fun p : Printing => p.id.val) [⟨⟨0⟩, ⟨0⟩, none⟩] :=
      numbered_nil.append rfl
    exact hfirst.append rfl
  printingsOnce := by decide
  printingsKnown p hp := by
    have hcard : binder.HasCard ⟨0⟩ := ⟨_, rfl, rfl⟩
    have hexpansion : binder.HasEntry .expansion ⟨0⟩ := ⟨_, rfl, rfl⟩
    rcases hp with _ | ⟨_, _ | ⟨_, hp⟩⟩
    · exact ⟨hcard, by simp⟩
    · exact ⟨hcard, by simpa using hexpansion⟩
    · cases hp
  cardSets := ⟨by decide, by decide⟩
  cardSetsFit := by decide
  names := by decide
  copies := ⟨by decide, by decide⟩
  copiesFit := by decide

theorem valid_binder : binder.Valid :=
  orderly_binder.valid (by decide +kernel)

theorem inPlace_binder : binder.InPlace := by
  refine orderly_binder.inPlace ⟨fun kind => ?_, ?_, ?_, ?_, ?_⟩
  · cases kind <;> decide +kernel
  all_goals decide +kernel

end CardBinder.Database
