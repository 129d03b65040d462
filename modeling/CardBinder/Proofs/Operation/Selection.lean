import CardBinder.Proofs.Filter.Selection
import CardBinder.Proofs.Holder.Insertion
import CardBinder.Proofs.Operation.Contents

/-! A set made of a selection: printings that are missing are made, then one copy of each. -/

namespace CardBinder.Database
variable {db db' : Database} {f : Filter} {d : CardSetDraft} {set : CardSetId}
  {cards : List CardId} {printings : List PrintingId}

/-- What a printing is of. -/
def printed? (db : Database) (id : PrintingId) : Option (CardId × Option LookupId) :=
  (db.printing? id).map fun p => (p.card, p.expansion)

/-- A database with the printings of a selection, those that were missing made. -/
structure Prints (db : Database) (db' : Database) (printings : List PrintingId) : Prop where
  rest : db' = { db with printings := db'.printings }
  append : ∃ new, db'.printings = db.printings ++ new
  numbered : Numbered (·.id.val) db'.printings
  known : ∀ id ∈ printings, (db'.printing? id).isSome

theorem Prints.nil (h : Numbered (·.id.val) db.printings) : db.Prints db [] where
  rest := rfl
  append := ⟨[], (List.append_nil _).symm⟩
  numbered := h
  known := by simp

theorem Prints.cons {card : CardId} (hn : Numbered (·.id.val) db.printings)
    (h : (db.printingFor card none).1.Prints db' printings) :
    db.Prints db' ((db.printingFor card none).2 :: printings) where
  rest := by
    rw [h.rest, printingFor_eq]
  append := by
    obtain ⟨new, hnew, _⟩ := printingFor_append db card none
    obtain ⟨more, hmore⟩ := h.append
    exact ⟨new ++ more, by rw [hmore, hnew, List.append_assoc]⟩
  numbered := h.numbered
  known := by
    refine List.forall_mem_cons.mpr ⟨?_, h.known⟩
    obtain ⟨more, hmore⟩ := h.append
    obtain ⟨p, hp⟩ := Option.isSome_iff_exists.mp (isSome_printing?_printingFor hn card none)
    exact Option.isSome_iff_exists.mpr ⟨p, printing?_of_append hmore hp⟩

theorem plainPrintings_cons (db : Database) (card : CardId) (cards : List CardId) :
    db.plainPrintings (card :: cards) =
      (((db.printingFor card none).1.plainPrintings cards).1,
        (db.printingFor card none).2 :: ((db.printingFor card none).1.plainPrintings cards).2) :=
  rfl

/-- There is a printing for each card, and each is of its card and of no expansion. -/
theorem prints_plainPrintings (h : Numbered (·.id.val) db.printings) (cards : List CardId) :
    db.Prints (db.plainPrintings cards).1 (db.plainPrintings cards).2 ∧
      (db.printings.length + cards.length ≤ idBound →
        (db.plainPrintings cards).2.map (db.plainPrintings cards).1.printed? =
          cards.map fun card => some (card, none)) := by
  induction cards generalizing db with
  | nil => exact ⟨.nil h, fun _ => rfl⟩
  | cons card cards ih =>
    obtain ⟨hprints, hof⟩ := ih (numbered_printingFor h card none)
    rw [plainPrintings_cons]
    refine ⟨.cons h hprints, fun hfit => ?_⟩
    obtain ⟨more, hmore⟩ := hprints.append
    have hgrows : (db.printingFor card none).1.printings.length ≤ db.printings.length + 1 := by
      obtain ⟨new, hnew, hfew⟩ := printingFor_append db card none
      rw [hnew, List.length_append]
      omega
    rw [List.length_cons] at hfit
    have hfirstFit : (db.printingFor card none).1.printings.length ≤ idBound := by omega
    obtain ⟨p, hp, hcard, hexpansion⟩ := printing?_printingFor h card none hfirstFit
    rw [List.map_cons, hof (by omega), printed?, printing?_of_append hmore hp, Option.map_some,
      hcard, hexpansion]
    rfl

/-! One copy of each -/

/-- The database with one more copy of each of some printings in a set. -/
def withEach (db : Database) (set : CardSetId) (printings : List PrintingId) : Database :=
  printings.foldl (fun db printing => (db.addCopy set printing).1) db

theorem withEach_eq (db : Database) (set : CardSetId) (printings : List PrintingId) :
    ∃ new, db.withEach set printings = { db with
        copies := db.copies ++ new, nextCopyId := (db.withEach set printings).nextCopyId } ∧
      new.map (·.printing) = printings ∧ ∀ c ∈ new, c.cardSet = set := by
  induction printings generalizing db with
  | nil => exact ⟨[], by simp [withEach], rfl, by simp⟩
  | cons printing printings ih =>
    obtain ⟨new, heq, hof, hin⟩ := ih (db.addCopy set printing).1
    refine ⟨⟨⟨db.nextCopyId⟩, set, printing⟩ :: new, heq.trans ?_,
      congrArg (printing :: ·) hof, List.forall_mem_cons.mpr ⟨rfl, hin⟩⟩
    simp only [addCopy, List.append_assoc, List.singleton_append]
    rfl

/-! The set that is made -/

/-- The database with a new set that has one copy of each of some printings. -/
def collected (db : Database) (d : CardSetDraft) (printings : List PrintingId) : Database :=
  (db.withSet d).withEach ⟨db.nextCardSetId⟩ printings

/-- What a new set with one copy of each of some printings changes. -/
structure Collects (db : Database) (d : CardSetDraft) (printings : List PrintingId)
    (db' : Database) : Prop where
  rest : db' = { db with
    printings := db'.printings
    cardSets := db.cardSets ++ [d.toCardSet ⟨db.nextCardSetId⟩]
    nextCardSetId := db.nextCardSetId + 1
    copies := db'.copies
    nextCopyId := db'.nextCopyId }
  append : ∃ new, db'.printings = db.printings ++ new
  once : (db'.printings.map fun p => (p.card, p.expansion)).Nodup
  copies : ∃ new, db'.copies = db.copies ++ new ∧ new = db'.copiesOf ⟨db.nextCardSetId⟩
  each : (db'.copiesOf ⟨db.nextCardSetId⟩).map (·.printing) = printings
  older : ∀ c ∈ db.copies, db'.holding? c = db.holding? c

section Collected
variable {db₁ : Database} (hv : db.Valid) (h : db.Prints db₁ printings)
include h

theorem Prints.nextCardSetId_eq : db₁.nextCardSetId = db.nextCardSetId := by
  rw [h.rest]

theorem Prints.collected_eq (d : CardSetDraft) :
    ∃ new, db₁.collected d printings = { db with
        printings := db₁.printings
        cardSets := db.cardSets ++ [d.toCardSet ⟨db.nextCardSetId⟩]
        nextCardSetId := db.nextCardSetId + 1
        copies := db.copies ++ new
        nextCopyId := (db₁.collected d printings).nextCopyId } ∧
      new.map (·.printing) = printings ∧ ∀ c ∈ new, c.cardSet = ⟨db.nextCardSetId⟩ := by
  obtain ⟨new, heq, hof, hin⟩ := withEach_eq (db₁.withSet d) ⟨db₁.nextCardSetId⟩ printings
  rw [h.nextCardSetId_eq] at hin
  refine ⟨new, heq.trans ?_, hof, hin⟩
  rw [withSet, h.nextCardSetId_eq, h.rest]
  rfl

theorem Prints.printings_collected (d : CardSetDraft) :
    (db₁.collected d printings).printings = db₁.printings := by
  obtain ⟨new, heq, _⟩ := h.collected_eq d
  rw [heq]

include hv

theorem Prints.collects (d : CardSetDraft)
    (honce : (db₁.printings.map fun p => (p.card, p.expansion)).Nodup) :
    db.Collects d printings (db₁.collected d printings) := by
  obtain ⟨new, heq, hof, hin⟩ := h.collected_eq d
  obtain ⟨more, hmore⟩ := h.append
  have hcopies : (db₁.collected d printings).copies = db.copies ++ new := by rw [heq]
  have hprintings := h.printings_collected d
  have hold : db.copies.filter (·.cardSet == ⟨db.nextCardSetId⟩) = [] := by
    refine List.filter_eq_nil_iff.mpr fun c hc heq => ?_
    obtain ⟨cs, hcs, hid⟩ := hv.copySets c hc
    exact hv.fresh cs hcs (hid.trans (beq_iff_eq.mp heq))
  have hnew : (db₁.collected d printings).copiesOf ⟨db.nextCardSetId⟩ = new := by
    rw [copiesOf, hcopies, List.filter_append, hold, List.nil_append, List.filter_eq_self]
    exact fun c hc => beq_iff_eq.mpr (hin c hc)
  refine ⟨?_, ⟨more, hprintings.trans hmore⟩, hprintings ▸ honce, ⟨new, hcopies, hnew.symm⟩,
    hnew ▸ hof, fun c hc => ?_⟩
  · rw [hcopies, hprintings]
    exact heq
  · exact holding?_of_printings (hprintings.trans hmore) (hv.copyPrintings c hc)

theorem Prints.validate_collected (hparent : ∀ x ∈ d.parent, ∃ cs ∈ db.cardSets, cs.id = x) :
    (db₁.collected d printings).validate = .ok () := by
  obtain ⟨new, heq, hof, hin⟩ := h.collected_eq d
  obtain ⟨more, hmore⟩ := h.append
  have hprintings := h.printings_collected d
  refine hv.validate_new (by rw [heq]) hparent ⟨more, hprintings.trans hmore⟩ fun c hc => ?_
  rw [heq] at hc
  refine (List.mem_append.mp hc).imp_right fun hc => ⟨hin c hc, ?_⟩
  rw [printing?, hprintings]
  exact h.known _ (hof ▸ List.mem_map_of_mem hc)

end Collected

/-! Which printings there are copies of -/

theorem selectedPrintings_cards {ids : List CardId} (hcard : f.selects .card)
    (hids : f.selectCards db = .ok ids) :
    db.selectedPrintings f = .ok (db.plainPrintings ids) := by
  rw [selectedPrintings, if_pos hcard, hids]
  rfl

theorem selectedPrintings_printings {ids : List PrintingId} (hcard : ¬ f.selects .card)
    (hprinting : f.selects .printing) (hids : f.selectPrintings db = .ok ids) :
    db.selectedPrintings f = .ok (db, ids) := by
  rw [selectedPrintings, if_neg hcard, if_pos hprinting, hids]
  rfl

theorem Prints.nextCopyId_collected {db₁ : Database} (h : db.Prints db₁ printings)
    (d : CardSetDraft) :
    (db₁.collected d printings).nextCopyId = db.nextCopyId + printings.length := by
  have hnext : db₁.nextCopyId = db.nextCopyId := by rw [h.rest]
  rw [← hnext]
  exact nextCopyId_addEach ⟨db₁.nextCardSetId⟩ printings (db₁.withSet d)

/-- A set is made of a selection if there are numbers for it and its copies. -/
theorem insertSelection_eq {db₁ : Database}
    (hselect : db.selectedPrintings f = .ok (db₁, printings)) (h : db.Prints db₁ printings)
    (hfree : db.findCardSet d.name = none)
    (hparent : ∀ p ∈ d.parent, (db.cardSet? p).isSome) :
    db.insertSelection f d = if db.HasNumbers 1 (db.selectedCount f) then
        .ok (db₁.collected d printings, ⟨db.nextCardSetId⟩)
      else .error .outOfNumbers := by
  have hfree' : db₁.findCardSet d.name = none := by
    rw [h.rest]
    exact hfree
  have hparent' : ∀ p ∈ d.parent, (db₁.cardSet? p).isSome := by
    rw [h.rest]
    exact hparent
  rw [selectedCount_of_ok hselect, ← checkCounters_eq, ← h.nextCopyId_collected d,
    ← h.nextCardSetId_eq, insertSelection, hselect]
  simp only [bind, Except.bind, insertCardSet_eq hfree' hparent']
  cases checkCounter idBound (db₁.nextCardSetId + 1) <;> rfl

theorem insertSelection_unsupported (hcard : ¬ f.selects .card)
    (hprinting : ¬ f.selects .printing) :
    db.insertSelection f d = .error (.unsupportedEntity f.name .printing) := by
  rw [insertSelection, selectedPrintings, if_neg hcard, if_neg hprinting]
  rfl

/-- Printings that are made for selected cards are not there yet. -/
theorem Valid.once_plainPrintings (hv : db.Valid) {ids : List CardId}
    (hids : f.selectCards db = .ok ids) :
    ((db.plainPrintings ids).1.printings.map fun p => (p.card, p.expansion)).Nodup := by
  have hknown : ∀ card ∈ ids, db.Knows card none := by
    intro card hcard
    obtain ⟨c, hc, rfl⟩ := Filter.selectCards_mem hids card hcard
    exact ⟨hv.cards.leads hc, by simp⟩
  have hedits := ((Edits.none : Edits db.Knows db 0 0 db).plainPrintings hknown).1
  exact (hedits.printingsIn ⟨hv.printings, hv.printingsOnce, hv.printingsKnown⟩).once

/-- What the copies of the new set are of is told by their printings. -/
theorem Collects.holdings (h : db.Collects d printings db') :
    (db'.copiesOf ⟨db.nextCardSetId⟩).map db'.holding? =
      (printings.map db'.printed?).map (Option.map fun of => ⟨⟨db.nextCardSetId⟩, of.1, of.2⟩) := by
  rw [← h.each, List.map_map, List.map_map]
  refine List.map_congr_left fun c hc => ?_
  have hset : c.cardSet = ⟨db.nextCardSetId⟩ := beq_iff_eq.mp (List.mem_filter.mp hc).2
  simp only [Function.comp_apply, holding?, printed?, Option.map_map, hset]
  rfl

theorem Collects.holdings_cards {db₁ : Database} (hn : Numbered (·.id.val) db.printings)
    (hmade : db.plainPrintings cards = (db₁, printings))
    (h : db.Collects d printings (db₁.collected d printings))
    (hfit : db.printings.length + cards.length ≤ idBound) :
    ((db₁.collected d printings).copiesOf ⟨db.nextCardSetId⟩).map
      (db₁.collected d printings).holding? =
        cards.map fun card => some ⟨⟨db.nextCardSetId⟩, card, none⟩ := by
  obtain ⟨hprints, hof⟩ := prints_plainPrintings hn cards
  rw [hmade] at hprints hof
  have hprinted : (db₁.collected d printings).printed? = db₁.printed? := by
    funext id
    rw [printed?, printing?, hprints.printings_collected d]
    rfl
  rw [h.holdings, hprinted, hof hfit, List.map_map]
  rfl

end CardBinder.Database
