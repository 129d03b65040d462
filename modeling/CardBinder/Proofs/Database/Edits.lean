import CardBinder.Operation.Details
import CardBinder.Proofs.Database.Sets

/-! The changes that operations on card sets are made of, and the order of the tables they keep. -/

namespace CardBinder.Database

/-- One change after the other: `m` sets and `n` copies are new, and none is dropped any more once
there are new ones. Printings are made of what `K` allows only. -/
inductive Edits (K : CardId → Option LookupId → Prop) (db : Database) : Nat → Nat → Database → Prop
  | none : Edits K db 0 0 db
  | printing {m n : Nat} {db' : Database} {card : CardId} {expansion : Option LookupId} :
      Edits K db m n db' → K card expansion → Edits K db m n (db'.printingFor card expansion).1
  | details {m n : Nat} {db' db'' : Database} {set : CardSetId} {d : DetailChange} {cs : CardSet} :
      Edits K db m n db' → db'.changeDetails set d = .ok (db'', cs) → Edits K db m n db''
  | parent {m n : Nat} {db' : Database} {set : CardSetId} {parent : Option CardSetId} :
      Edits K db m n db' → (∀ p ∈ parent, ∃ cs ∈ db'.cardSets, cs.id = p) →
      Edits K db m n (db'.setParent set parent)
  | newSet {m n : Nat} {db' db'' : Database} {d : CardSetDraft} {id : CardSetId} :
      Edits K db m n db' → db'.insertCardSet d = .ok (db'', id) → Edits K db (m + 1) n db''
  | newCopies {m n k : Nat} {db' : Database} {set : CardSetId} {printing : PrintingId} :
      Edits K db m n db' → (∃ p ∈ db'.printings, p.id = printing) →
      db'.nextCopyId + k < idBound → Edits K db m (n + k) (db'.addCopies set printing k)
  | fewerCopies {k : Nat} {db' : Database} {set : CardSetId} {printing : PrintingId} :
      Edits K db 0 0 db' → Edits K db 0 0 (db'.removeCopies set printing k).1
  | dropSet {db' db'' : Database} {set : CardSetId} {cs : CardSet} :
      Edits K db 0 0 db' → db'.removeCardSet set = some (db'', cs) → Edits K db 0 0 db''

variable {db db' : Database} {K : CardId → Option LookupId → Prop} {m n : Nat} {set : CardSetId}
  {card : CardId} {expansion : Option LookupId} {cs : CardSet}

/-! Printings -/

theorem printingFor_cases (db : Database) (card : CardId) (expansion : Option LookupId) :
    (∃ p ∈ db.printings, (p.card, p.expansion) = (card, expansion) ∧
        db.printingFor card expansion = (db, p.id)) ∨
      (∀ p ∈ db.printings, (p.card, p.expansion) ≠ (card, expansion)) ∧
        db.printingFor card expansion = ({ db with
          printings := db.printings ++ [⟨.ofPlace db.printings.length, card, expansion⟩] },
          .ofPlace db.printings.length) := by
  rw [printingFor]
  cases hf : db.findPrinting card expansion with
  | some id =>
    obtain ⟨p, hp, rfl⟩ := Option.map_eq_some_iff.mp hf
    refine Or.inl ⟨p, List.mem_reverse.mp (List.mem_of_find?_eq_some hp), ?_, rfl⟩
    simpa using List.find?_some hp
  | none =>
    refine Or.inr ⟨?_, rfl⟩
    intro p hp heq
    have hnone := List.find?_eq_none.mp (Option.map_eq_none_iff.mp hf) p (List.mem_reverse.mpr hp)
    simp_all

theorem printingFor_mem (db : Database) (card : CardId) (expansion : Option LookupId) :
    ∃ p ∈ (db.printingFor card expansion).1.printings,
      p.id = (db.printingFor card expansion).2 := by
  rcases printingFor_cases db card expansion with ⟨p, hp, _, h⟩ | ⟨_, h⟩
  · rw [h]
    exact ⟨p, hp, rfl⟩
  · rw [h]
    exact ⟨_, List.mem_append_right _ (List.mem_singleton_self _), rfl⟩

theorem printingFor_eq (db : Database) (card : CardId) (expansion : Option LookupId) :
    (db.printingFor card expansion).1 =
      { db with printings := (db.printingFor card expansion).1.printings } := by
  rcases printingFor_cases db card expansion with ⟨p, hp, _, h⟩ | ⟨_, h⟩ <;> rw [h]

theorem nextCopyId_printingFor (db : Database) (card : CardId) (expansion : Option LookupId) :
    (db.printingFor card expansion).1.nextCopyId = db.nextCopyId := by
  rw [printingFor_eq]

/-- At most one printing is new. -/
theorem printingFor_append (db : Database) (card : CardId) (expansion : Option LookupId) :
    ∃ new, (db.printingFor card expansion).1.printings = db.printings ++ new ∧
      new.length ≤ 1 := by
  rcases printingFor_cases db card expansion with ⟨p, _, _, h⟩ | ⟨_, h⟩
  · exact ⟨[], by rw [h, List.append_nil], Nat.zero_le 1⟩
  · exact ⟨[⟨.ofPlace db.printings.length, card, expansion⟩], by rw [h], Nat.le_refl 1⟩

theorem numbered_printingFor (h : Numbered (·.id.val) db.printings) (card : CardId)
    (expansion : Option LookupId) :
    Numbered (·.id.val) (db.printingFor card expansion).1.printings := by
  rcases printingFor_cases db card expansion with ⟨p, _, _, heq⟩ | ⟨_, heq⟩
  · rw [heq]
    exact h
  · rw [heq]
    exact h.append rfl

/-- Printings are found as before when more are added. -/
theorem printing?_of_append {new : List Printing} (hnew : db'.printings = db.printings ++ new)
    {id : PrintingId} {p : Printing} (h : db.printing? id = some p) :
    db'.printing? id = some p := by
  obtain ⟨hlt, _⟩ := List.getElem?_eq_some_iff.mp h
  rw [printing?, hnew, List.getElem?_append_left hlt]
  exact h

/-- The printing that is made or found is one of the card and the expansion. -/
theorem printing?_printingFor (h : Numbered (·.id.val) db.printings) (card : CardId)
    (expansion : Option LookupId)
    (hfit : (db.printingFor card expansion).1.printings.length ≤ idBound) :
    ∃ p, (db.printingFor card expansion).1.printing? (db.printingFor card expansion).2 = some p ∧
      p.card = card ∧ p.expansion = expansion := by
  rcases printingFor_cases db card expansion with ⟨p, hp, hof, heq⟩ | ⟨_, heq⟩
  · rw [heq] at hfit ⊢
    exact ⟨p, (h.placed hfit).getElem?_key hp, Prod.mk.inj hof⟩
  · rw [heq] at hfit ⊢
    rw [List.length_append, List.length_singleton] at hfit
    have hlt : db.printings.length < idBound := hfit
    exact ⟨⟨.ofPlace db.printings.length, card, expansion⟩,
      by simp [printing?, Nat.mod_eq_of_lt hlt], rfl, rfl⟩

/-! Details -/

theorem changeDetails_ok {d : DetailChange} (h : db.changeDetails set d = .ok (db', cs)) :
    db' = db.modifyCardSet set d.apply ∧
      ∀ name ∈ d.name, db.findCardSet (Text.trim name) = none ∨
        db.findCardSet (Text.trim name) = some set := by
  rw [changeDetails] at h
  cases hname : d.name with
  | none =>
    rw [hname] at h
    obtain ⟨row, _, h⟩ := Outcome.bind_ok (x := db.getCardSet set) h
    exact ⟨(Prod.mk.inj (Except.ok.inj h)).1.symm, by simp⟩
  | some name =>
    rw [hname] at h
    obtain ⟨_, hcheck, h⟩ := Outcome.bind_ok (x := db.checkName set name) h
    obtain ⟨row, _, h⟩ := Outcome.bind_ok (x := db.getCardSet set) h
    refine ⟨(Prod.mk.inj (Except.ok.inj h)).1.symm, ?_⟩
    intro name' hname'
    obtain rfl := Option.some.inj hname'
    simp only [checkName] at hcheck
    split at hcheck
    · cases hcheck
    · cases hf : db.findCardSet (Text.trim name) with
      | none => exact Or.inl rfl
      | some other =>
        simp only [hf] at hcheck
        split at hcheck
        · rename_i heq
          exact Or.inr (congrArg some heq)
        · cases hcheck

theorem apply_id (d : DetailChange) (cs : CardSet) : (d.apply cs).id = cs.id := rfl

/-! The parts of a database that edits leave alone, or change in one way only -/

theorem Edits.sameCatalog (h : Edits K db m n db') : SameCatalog db db' := by
  induction h with
  | none => exact .refl db
  | printing _ _ ih =>
    rw [printingFor_eq]
    exact ih.trans ⟨rfl, rfl, rfl, rfl, rfl, rfl⟩
  | details _ hd ih =>
    rw [(changeDetails_ok hd).1, modifyCardSet_eq]
    exact ih.trans ⟨rfl, rfl, rfl, rfl, rfl, rfl⟩
  | parent _ _ ih =>
    rw [setParent_eq]
    exact ih.trans ⟨rfl, rfl, rfl, rfl, rfl, rfl⟩
  | newSet _ hi ih =>
    obtain ⟨_, _, _, _, rfl⟩ := insertCardSet_ok hi
    exact ih.trans ⟨rfl, rfl, rfl, rfl, rfl, rfl⟩
  | newCopies _ _ _ ih => exact ih.trans ⟨rfl, rfl, rfl, rfl, rfl, rfl⟩
  | fewerCopies _ ih => exact ih.trans ⟨rfl, rfl, rfl, rfl, rfl, rfl⟩
  | dropSet _ hr ih =>
    obtain ⟨_, _, _, rfl⟩ := removeCardSet_some hr
    exact ih.trans ⟨rfl, rfl, rfl, rfl, rfl, rfl⟩

/-- Set numbers are given out in order. -/
theorem Edits.cardSets (h : Edits K db m n db') :
    Continues db.setNumbers db.nextCardSetId m db'.setNumbers ∧
      db'.nextCardSetId = db.nextCardSetId + m := by
  induction h with
  | none => exact ⟨.refl, rfl⟩
  | printing _ _ ih =>
    rw [printingFor_eq]
    exact ih
  | details _ hd ih =>
    rw [(changeDetails_ok hd).1, setNumbers_modifyCardSet (apply_id _), modifyCardSet_eq]
    exact ih
  | parent _ _ ih =>
    rw [setNumbers_setParent, setParent_eq]
    exact ih
  | newSet _ hi ih =>
    obtain ⟨hc, hcount⟩ := ih
    obtain ⟨_, _, _, _, rfl⟩ := insertCardSet_ok hi
    constructor
    · have hmore := hc.more 1
      rw [← hcount] at hmore
      simpa [setNumbers, CardSetDraft.toCardSet] using hmore
    · simp only [hcount, Nat.add_assoc]
  | newCopies _ _ _ ih => exact ih
  | fewerCopies _ ih => exact ih
  | dropSet _ hr ih =>
    obtain ⟨i, _, _, rfl⟩ := removeCardSet_some hr
    exact ⟨ih.1.drop ((List.eraseIdx_sublist _ i).map _), ih.2⟩

/-- Copy numbers are given out in order. -/
theorem Edits.copies (h : Edits K db m n db') :
    Continues db.copyNumbers db.nextCopyId n db'.copyNumbers ∧
      db'.nextCopyId = db.nextCopyId + n := by
  induction h with
  | none => exact ⟨.refl, rfl⟩
  | printing _ _ ih =>
    rw [printingFor_eq]
    exact ih
  | details _ hd ih =>
    rw [(changeDetails_ok hd).1, modifyCardSet_eq]
    exact ih
  | parent _ _ ih =>
    rw [setParent_eq]
    exact ih
  | newSet _ hi ih =>
    obtain ⟨_, _, _, _, rfl⟩ := insertCardSet_ok hi
    exact ih
  | @newCopies m n k db₁ set printing _ _ _ ih =>
    obtain ⟨hc, hcount⟩ := ih
    constructor
    · have hids : (db₁.addCopies set printing k).copyNumbers =
          db₁.copyNumbers ++ List.range' db₁.nextCopyId k := by
        rw [copyNumbers, addCopies, List.map_append, List.map_map, ← copyIds_val]
        rfl
      rw [hids, hcount]
      exact hc.more k
    · simp only [addCopies, hcount, Nat.add_assoc]
  | fewerCopies _ ih => exact ⟨ih.1.drop ((dropFirst_sublist _ _ _).map _), ih.2⟩
  | dropSet _ hr ih =>
    obtain ⟨i, _, _, rfl⟩ := removeCardSet_some hr
    exact ⟨ih.1.drop (List.filter_sublist.map _), ih.2⟩

/-- Printings are in their places, stored once, and of what `K` allows. -/
structure PrintingsIn (K : CardId → Option LookupId → Prop) (db : Database) : Prop where
  placed : Numbered (·.id.val) db.printings
  once : (db.printings.map fun p => (p.card, p.expansion)).Nodup
  allowed : ∀ p ∈ db.printings, K p.card p.expansion

theorem PrintingsIn.printingFor (h : PrintingsIn K db) (hk : K card expansion) :
    PrintingsIn K (db.printingFor card expansion).1 := by
  rcases printingFor_cases db card expansion with ⟨p, _, _, heq⟩ | ⟨hnew, heq⟩
  · rw [heq]
    exact h
  · rw [heq]
    refine ⟨h.placed.append rfl, nodup_map_append h.once hnew, ?_⟩
    intro p hp
    rcases List.mem_append.mp hp with hp | hp
    · exact h.allowed p hp
    · rw [List.mem_singleton.mp hp]
      exact hk

theorem Edits.printingsIn (h : Edits K db m n db') (hp : PrintingsIn K db) :
    PrintingsIn K db' := by
  induction h with
  | none => exact hp
  | printing _ hk ih => exact ih.printingFor hk
  | details _ hd ih =>
    rw [(changeDetails_ok hd).1, modifyCardSet_eq]
    exact ⟨ih.placed, ih.once, ih.allowed⟩
  | parent _ _ ih =>
    rw [setParent_eq]
    exact ⟨ih.placed, ih.once, ih.allowed⟩
  | newSet _ hi ih =>
    obtain ⟨_, _, _, _, rfl⟩ := insertCardSet_ok hi
    exact ⟨ih.placed, ih.once, ih.allowed⟩
  | newCopies _ _ _ ih => exact ⟨ih.placed, ih.once, ih.allowed⟩
  | fewerCopies _ ih => exact ⟨ih.placed, ih.once, ih.allowed⟩
  | dropSet _ hr ih =>
    obtain ⟨_, _, _, rfl⟩ := removeCardSet_some hr
    exact ⟨ih.placed, ih.once, ih.allowed⟩

/-- Names stay different: a new name is free, or already the name of the same set. -/
theorem Edits.names (h : Edits K db m n db')
    (hs : InOrder (·.id.val) db.cardSets db.nextCardSetId)
    (hn : (db.cardSets.map (·.name)).Nodup) : (db'.cardSets.map (·.name)).Nodup := by
  induction h with
  | none => exact hn
  | printing _ _ ih =>
    rw [printingFor_eq]
    exact ih
  | @details m n db₁ db₂ set d cs h hd ih =>
    obtain ⟨rfl, hfree⟩ := changeDetails_ok hd
    rcases modifyCardSet_cases db₁ set d.apply with heq | ⟨i, row, hrow, hid, heq⟩
    · rw [heq]
      exact ih
    · rw [heq]
      refine nodup_map_modify ih hrow ?_
      intro x hx hname
      have hinj : ∀ y ∈ db₁.cardSets, y.name = row.name → y = row := fun y hy he =>
        List.inj_on_of_nodup_map ih hy (List.mem_of_getElem? hrow) he
      cases hd' : d.name with
      | none => exact hinj x hx (by simpa [DetailChange.apply, hd'] using hname)
      | some name =>
        have hname' : x.name = Text.trim name := by simpa [DetailChange.apply, hd'] using hname
        rcases hfree name hd' with hnone | hsome
        · exact absurd hname' (findCardSet_eq_none hnone x hx)
        · obtain ⟨y, hy, hyid, hyname⟩ := findCardSet_some hsome
          have horder := hs.continues h.cardSets.1
          have hyrow : y = row := horder.inj hy (List.mem_of_getElem? hrow) (by rw [hyid, hid])
          exact hinj x hx (by rw [hname', ← hyname, hyrow])
  | parent _ _ ih =>
    rw [setParent_names]
    exact ih
  | newSet _ hi ih =>
    obtain ⟨hfree, _, _, _, rfl⟩ := insertCardSet_ok hi
    exact nodup_map_append ih (findCardSet_eq_none hfree)
  | newCopies _ _ _ ih => exact ih
  | fewerCopies _ ih => exact ih
  | dropSet _ hr ih =>
    obtain ⟨i, _, _, rfl⟩ := removeCardSet_some hr
    exact ih.sublist ((List.eraseIdx_sublist _ i).map _)

/-- No edit takes a counter beyond the last number. -/
theorem Edits.fit (h : Edits K db m n db') (hset : db.nextCardSetId < idBound)
    (hcopy : db.nextCopyId < idBound) :
    db'.nextCardSetId < idBound ∧ db'.nextCopyId < idBound := by
  induction h with
  | none => exact ⟨hset, hcopy⟩
  | printing _ _ ih =>
    rw [printingFor_eq]
    exact ih
  | details _ hd ih =>
    rw [(changeDetails_ok hd).1, modifyCardSet_eq]
    exact ih
  | parent _ _ ih =>
    rw [setParent_eq]
    exact ih
  | newSet _ hi ih =>
    obtain ⟨_, _, hnumber, _, rfl⟩ := insertCardSet_ok hi
    exact ⟨hnumber, ih.2⟩
  | newCopies _ _ hfit ih => exact ⟨ih.1, hfit⟩
  | fewerCopies _ ih => exact ih
  | dropSet _ hr ih =>
    obtain ⟨_, _, _, rfl⟩ := removeCardSet_some hr
    exact ih

/-- Edits keep the counters ahead, so there were numbers for all that is new. -/
theorem Edits.countersAhead (h : Edits K db m n db') (ha : db.CountersAhead) :
    db'.CountersAhead ∧ db.HasNumbers m n := by
  obtain ⟨hsets, hnextSet⟩ := h.cardSets
  obtain ⟨hcopies, hnextCopy⟩ := h.copies
  obtain ⟨hsetsFit, hcopiesFit⟩ := h.fit ha.cardSetsFit ha.copiesFit
  refine ⟨⟨hnextSet ▸ ha.cardSets.continues hsets, hsetsFit,
    hnextCopy ▸ ha.copies.continues hcopies, hcopiesFit⟩, ?_, ?_⟩
  · exact hnextSet ▸ hsetsFit
  · exact hnextCopy ▸ hcopiesFit

/-- Edits keep every table in order. -/
theorem Edits.orderly (h : Edits db.Knows db m n db') (ho : db.Orderly) : db'.Orderly := by
  have hsame := h.sameCatalog
  have hp := h.printingsIn ⟨ho.printings, ho.printingsOnce, ho.printingsKnown⟩
  have hahead := (h.countersAhead ho.countersAhead).1
  exact
    { ho.toCatalogValid.of_same hsame with
      printings := hp.placed
      printingsOnce := hp.once
      printingsKnown := fun p hp' => hsame.knows.mpr (hp.allowed p hp')
      cardSets := hahead.cardSets
      cardSetsFit := hahead.cardSetsFit
      names := h.names ho.cardSets ho.names
      copies := hahead.copies
      copiesFit := hahead.copiesFit }

end CardBinder.Database
