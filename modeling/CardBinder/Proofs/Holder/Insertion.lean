import CardBinder.Proofs.Database.Succession
import CardBinder.Proofs.Desk.Reattachment
import CardBinder.Proofs.Holder.Resolution

/-! Writing a prepared set: what its copies are of, and what is as it was before. -/

namespace CardBinder

/-- What copies that were found are put into a set as. -/
def FoundCopies.holdings (set : CardSetId) (f : FoundCopies) : List Holding :=
  List.replicate f.count ⟨set, f.card, f.expansion⟩

namespace Database
variable {base db : Database} {set : CardSetId} {done : List FoundCopies}

/-- A database when the copies in `done` were put into a set. -/
structure Filled (base : Database) (set : CardSetId) (done : List FoundCopies) (db : Database) :
    Prop where
  rest : db = { base with
    printings := db.printings, copies := db.copies, nextCopyId := db.nextCopyId }
  numbered : Numbered (·.id.val) db.printings
  printings : ∃ new, db.printings = base.printings ++ new ∧ new.length ≤ done.length
  copies : ∃ new, db.copies = base.copies ++ new ∧
    (∀ c ∈ new, c.cardSet = set ∧ (db.printing? c.printing).isSome) ∧
    (db.printings.length ≤ idBound →
      new.map db.holding? = (done.flatMap (·.holdings set)).map some)

theorem filled_refl (h : Numbered (·.id.val) base.printings) (set : CardSetId) :
    Filled base set [] base where
  rest := rfl
  numbered := h
  printings := ⟨[], (List.append_nil _).symm, Nat.le_refl 0⟩
  copies := ⟨[], (List.append_nil _).symm, by simp, by simp⟩

/-- The printing of copies that are put in leads to a row, even when numbers have run out. -/
theorem isSome_printing?_printingFor (h : Numbered (·.id.val) db.printings) (card : CardId)
    (expansion : Option LookupId) :
    ((db.printingFor card expansion).1.printing? (db.printingFor card expansion).2).isSome := by
  obtain ⟨p, hp, hid⟩ := printingFor_mem db card expansion
  obtain ⟨row, hrow, _⟩ := (numbered_printingFor h card expansion).leads hp
  rw [printing?, ← hid, hrow]
  rfl

theorem length_copyIds (next n : Nat) : (copyIds next n).length = n := by
  induction n generalizing next with
  | zero => rfl
  | succ n ih => rw [copyIds, List.length_cons, ih]

/-- The copies that are put into a set. -/
def madeCopies (set : CardSetId) (db : Database) (f : FoundCopies) : List Copy :=
  (copyIds db.nextCopyId f.count).map (⟨·, set, (db.printingFor f.card f.expansion).2⟩)

theorem insertCopies_eq (set : CardSetId) (db : Database) (f : FoundCopies) :
    PreparedSet.insertCopies set db f = { db with
      printings := (db.printingFor f.card f.expansion).1.printings
      copies := db.copies ++ madeCopies set db f
      nextCopyId := db.nextCopyId + f.count } := by
  rw [PreparedSet.insertCopies]
  simp only [addCopies]
  rw [printingFor_eq]
  rfl

theorem printings_insertCopies (set : CardSetId) (db : Database) (f : FoundCopies) :
    (PreparedSet.insertCopies set db f).printings =
      (db.printingFor f.card f.expansion).1.printings := by
  rw [insertCopies_eq]

theorem printing?_insertCopies (set : CardSetId) (db : Database) (f : FoundCopies) :
    (PreparedSet.insertCopies set db f).printing? =
      (db.printingFor f.card f.expansion).1.printing? := by
  funext id
  rw [printing?, printing?, printings_insertCopies]

theorem mem_madeCopies (h : Numbered (·.id.val) db.printings) (set : CardSetId) (f : FoundCopies) :
    ∀ c ∈ madeCopies set db f, c.cardSet = set ∧
      ((PreparedSet.insertCopies set db f).printing? c.printing).isSome := by
  intro c hc
  obtain ⟨id, _, rfl⟩ := List.mem_map.mp hc
  rw [printing?_insertCopies]
  exact ⟨rfl, isSome_printing?_printingFor h f.card f.expansion⟩

theorem map_holding?_madeCopies (h : Numbered (·.id.val) db.printings) (set : CardSetId)
    (f : FoundCopies)
    (hfit : (PreparedSet.insertCopies set db f).printings.length ≤ idBound) :
    (madeCopies set db f).map (PreparedSet.insertCopies set db f).holding? =
      (f.holdings set).map some := by
  rw [printings_insertCopies] at hfit
  obtain ⟨p, hp, hcard, hexpansion⟩ := printing?_printingFor h f.card f.expansion hfit
  rw [FoundCopies.holdings, List.map_replicate, List.eq_replicate_iff]
  refine ⟨by simp [madeCopies, length_copyIds], ?_⟩
  intro holding hmem
  obtain ⟨c, hc, rfl⟩ := List.mem_map.mp hmem
  obtain ⟨id, _, rfl⟩ := List.mem_map.mp hc
  rw [holding?, printing?_insertCopies, hp, ← hcard, ← hexpansion]
  rfl

/-- Copies whose printing leads to a row are still of what they were of. -/
theorem holding?_of_printings {new : List Printing} (hnew : db.printings = base.printings ++ new)
    {c : Copy} (hc : (base.printing? c.printing).isSome) : db.holding? c = base.holding? c := by
  obtain ⟨p, hp⟩ := Option.isSome_iff_exists.mp hc
  have hof : base.holding? c = some ⟨c.cardSet, p.card, p.expansion⟩ := by
    rw [holding?, hp, Option.map_some]
  exact (holding?_of_append hnew hof).trans hof.symm

theorem Filled.step (h : Filled base set done db) (f : FoundCopies) :
    Filled base set (done ++ [f]) (PreparedSet.insertCopies set db f) := by
  obtain ⟨new, hnew, hfew⟩ := printingFor_append db f.card f.expansion
  obtain ⟨before, hbefore, hfewBefore⟩ := h.printings
  obtain ⟨copies, hcopies, hin, hholdings⟩ := h.copies
  have hprintings := (printings_insertCopies set db f).trans hnew
  refine ⟨?_, ?_, ⟨before ++ new, ?_, ?_⟩, ⟨copies ++ madeCopies set db f, ?_, ?_, ?_⟩⟩
  · rw [insertCopies_eq, h.rest]
  · rw [printings_insertCopies]
    exact numbered_printingFor h.numbered f.card f.expansion
  · rw [hprintings, hbefore, List.append_assoc]
  · simp only [List.length_append, List.length_singleton]
    omega
  · rw [insertCopies_eq, ← List.append_assoc, ← hcopies]
  · intro c hc
    rcases List.mem_append.mp hc with hc | hc
    · obtain ⟨hset, hsome⟩ := hin c hc
      obtain ⟨p, hp⟩ := Option.isSome_iff_exists.mp hsome
      exact ⟨hset, Option.isSome_iff_exists.mpr ⟨p, printing?_of_append hprintings hp⟩⟩
    · exact mem_madeCopies h.numbered set f c hc
  · intro hfit
    have hbeforeFit : db.printings.length ≤ idBound := by
      rw [hprintings, List.length_append] at hfit
      omega
    have hold : copies.map (PreparedSet.insertCopies set db f).holding? =
        (done.flatMap (·.holdings set)).map some := by
      rw [← hholdings hbeforeFit]
      exact List.map_congr_left fun c hc => holding?_of_printings hprintings (hin c hc).2
    rw [List.map_append, hold, map_holding?_madeCopies h.numbered set f hfit, List.flatMap_append,
      List.flatMap_singleton, List.map_append]

theorem filled_foldl (h : Numbered (·.id.val) base.printings) (set : CardSetId)
    (found : List FoundCopies) :
    Filled base set found (found.foldl (PreparedSet.insertCopies set) base) := by
  have hall : ∀ rest done db, Filled base set done db →
      Filled base set (done ++ rest) (rest.foldl (PreparedSet.insertCopies set) db) := by
    intro rest
    induction rest with
    | nil =>
      intro done db h
      rwa [List.append_nil]
    | cons f rest ih =>
      intro done db h
      rw [← List.singleton_append, ← List.append_assoc]
      exact ih (done ++ [f]) _ (h.step f)
  exact hall found [] base (filled_refl h set)

/-! What a filled set holds -/

theorem count_holdings (set : CardSetId) (card : CardId) (expansion : Option LookupId)
    (found : List FoundCopies) :
    (found.flatMap (·.holdings set)).count ⟨set, card, expansion⟩ =
      countSum (found.map fun f =>
        if (f.card, f.expansion) == (card, expansion) then f.count else 0) := by
  induction found with
  | nil => rfl
  | cons f found ih =>
    rw [List.flatMap_cons, List.count_append, ih, List.map_cons, Tally.countSum_cons,
      FoundCopies.holdings, List.count_replicate]
    simp

theorem length_holdings (set : CardSetId) (found : List FoundCopies) :
    (found.flatMap (·.holdings set)).length = countSum (found.map (·.count)) := by
  induction found with
  | nil => rfl
  | cons f found ih =>
    rw [List.flatMap_cons, List.length_append, ih, List.map_cons, Tally.countSum_cons,
      FoundCopies.holdings, List.length_replicate]

theorem Filled.copies_eq (h : Filled base set done db) :
    ∃ new, db.copies = base.copies ++ new ∧ ∀ c ∈ new, c.cardSet = set := by
  obtain ⟨new, hcopies, hin, _⟩ := h.copies
  exact ⟨new, hcopies, fun c hc => (hin c hc).1⟩

/-- Copies that were there are of what they were of. -/
theorem Filled.holding?_eq (h : Filled base set done db) {c : Copy}
    (hc : (base.printing? c.printing).isSome) : db.holding? c = base.holding? c := by
  obtain ⟨_, hnew, _⟩ := h.printings
  exact holding?_of_printings hnew hc

/-- Each copy was there or was put into the set, with a printing that leads to a row. -/
theorem Filled.copy_cases (h : Filled base set done db) {c : Copy} (hc : c ∈ db.copies) :
    c ∈ base.copies ∨ c.cardSet = set ∧ (db.printing? c.printing).isSome := by
  obtain ⟨_, hcopies, hin, _⟩ := h.copies
  rw [hcopies] at hc
  exact (List.mem_append.mp hc).imp_right (hin c)

section Empty
variable (h : Filled base set done db) (hfit : db.printings.length ≤ idBound)
  (hempty : ∀ c ∈ base.copies, c.cardSet ≠ set)
include h hfit hempty

/-- A set that was empty holds the copies that were found, and no others. -/
theorem Filled.countP_holding? (card : CardId) (expansion : Option LookupId) :
    db.copies.countP (fun c => db.holding? c == some ⟨set, card, expansion⟩) =
      countSum (done.map fun f =>
        if (f.card, f.expansion) == (card, expansion) then f.count else 0) := by
  obtain ⟨new, hcopies, _, hholdings⟩ := h.copies
  have hold : base.copies.countP (fun c => db.holding? c == some ⟨set, card, expansion⟩) = 0 := by
    refine List.countP_eq_zero.mpr fun c hc heq => ?_
    obtain ⟨p, _, hp⟩ := Option.map_eq_some_iff.mp (beq_iff_eq.mp heq)
    exact hempty c hc (congrArg Holding.cardSet hp)
  have hnew : new.countP (fun c => db.holding? c == some ⟨set, card, expansion⟩) =
      (new.map db.holding?).count (some ⟨set, card, expansion⟩) := by
    rw [List.count, List.countP_map]
    rfl
  rw [hcopies, List.countP_append, hold, Nat.zero_add, hnew, hholdings hfit,
    List.count_map_of_injective _ _ (Option.some_injective _), count_holdings]

theorem Filled.cardCount_eq : db.cardCount set = countSum (done.map (·.count)) := by
  obtain ⟨new, hcopies, hin, hholdings⟩ := h.copies
  have hold : base.copies.countP (·.cardSet == set) = 0 :=
    List.countP_eq_zero.mpr fun c hc heq => hempty c hc (beq_iff_eq.mp heq)
  have hnew : new.countP (·.cardSet == set) = new.length :=
    List.countP_eq_length.mpr fun c hc => beq_iff_eq.mpr (hin c hc).1
  have hlength := congrArg List.length (hholdings hfit)
  rw [List.length_map, List.length_map, length_holdings] at hlength
  rw [cardCount, hcopies, List.countP_append, hold, Nat.zero_add, hnew, hlength]

end Empty

end Database

namespace PreparedSet
variable {p : PreparedSet} {db : Database}

/-- The database with a prepared set written. -/
def written (p : PreparedSet) (db : Database) : Database :=
  p.copies.foldl (insertCopies ⟨db.nextCardSetId⟩) (db.withSet p.draft)

theorem nextCopyId_written (p : PreparedSet) (db : Database) :
    (p.written db).nextCopyId = db.nextCopyId + p.total :=
  nextCopyId_insertCopies ⟨db.nextCardSetId⟩ p.copies (db.withSet p.draft)

/-- A prepared set whose name is free and whose parent is there is written in full, if there are
numbers for it. -/
theorem insert_eq (hfree : db.findCardSet p.draft.name = none)
    (hparent : ∀ x ∈ p.draft.parent, (db.cardSet? x).isSome) :
    p.insert db = if db.HasNumbers 1 p.total then .ok (p.written db, ⟨db.nextCardSetId⟩)
      else .error .outOfNumbers := by
  rw [← Database.checkCounters_eq, ← nextCopyId_written, insert,
    Database.insertCardSet_eq hfree hparent]
  cases checkCounter idBound (db.nextCardSetId + 1) <;> rfl

theorem filled_written (hn : Numbered (·.id.val) db.printings) (p : PreparedSet) :
    (db.withSet p.draft).Filled ⟨db.nextCardSetId⟩ p.copies (p.written db) := by
  have hbase : Numbered (·.id.val) (db.withSet p.draft).printings := hn
  exact Database.filled_foldl hbase _ p.copies

theorem cardSets_written (hn : Numbered (·.id.val) db.printings) (p : PreparedSet) :
    (p.written db).cardSets = db.cardSets ++ [p.draft.toCardSet ⟨db.nextCardSetId⟩] := by
  rw [(p.filled_written hn).rest]
  rfl

/-- Writing a set leaves the catalog alone. -/
theorem sameCatalog_written (hn : Numbered (·.id.val) db.printings) (p : PreparedSet) :
    db.SameCatalog (p.written db) := by
  rw [(p.filled_written hn).rest]
  exact ⟨rfl, rfl, rfl, rfl, rfl, rfl⟩

/-- A set that is written passes the check before saving. -/
theorem validate_written (hv : db.Valid) (p : PreparedSet)
    (hparent : ∀ x ∈ p.draft.parent, ∃ cs ∈ db.cardSets, cs.id = x) :
    (p.written db).validate = .ok () := by
  have hfilled := p.filled_written hv.printings
  obtain ⟨printings, hprintings, _⟩ := hfilled.printings
  exact hv.validate_new (p.cardSets_written hv.printings) hparent ⟨printings, hprintings⟩
    fun c hc => hfilled.copy_cases hc

/-! Sets made of a holder -/

section Draft
variable {h : Holder} {name : String}
  (hdraft : p.draft = h.draft name (h.parent.bind db.findCardSet))
include hdraft

theorem exists_draft_parent : ∀ x ∈ p.draft.parent, ∃ cs ∈ db.cardSets, cs.id = x := by
  rw [hdraft]
  exact h.exists_parent db

/-- Under a free name the set is written in full, if there are numbers for it, and passes the check
before saving. -/
theorem insert_of_free (hv : db.Valid) (hfree : db.findCardSet name = none) :
    (p.insert db = if db.HasNumbers 1 p.total then .ok (p.written db, ⟨db.nextCardSetId⟩)
      else .error .outOfNumbers) ∧ (p.written db).validate = .ok () := by
  have hparent := exists_draft_parent hdraft
  have hname : db.findCardSet p.draft.name = none := by
    rw [hdraft]
    exact hfree
  exact ⟨insert_eq hname fun x hx => Database.isSome_cardSet? hv.cardSets (hparent x hx),
    p.validate_written hv hparent⟩

theorem getCardSet_written (hv : db.Valid) :
    (p.written db).getCardSet (p.draft.toCardSet ⟨db.nextCardSetId⟩).id =
      .ok (p.draft.toCardSet ⟨db.nextCardSetId⟩) := by
  have hrows := p.cardSets_written hv.printings
  refine (hv.succeeds_new hrows (exists_draft_parent hdraft)).ascends'.getCardSet ?_
  exact hrows ▸ List.mem_append_right _ (List.mem_singleton_self _)

end Draft

end PreparedSet
end CardBinder
