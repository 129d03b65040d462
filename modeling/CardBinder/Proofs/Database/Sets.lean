import CardBinder.Proofs.Database.Valid
import CardBinder.Proofs.Outcome

/-! What each change to the card sets and their copies does to the tables. -/

namespace CardBinder

namespace Database
variable {db db' : Database} {id set : CardSetId} {printing : PrintingId} {f : CardSet → CardSet}

/-- The numbers of the card sets. -/
def setNumbers (db : Database) : List Nat :=
  db.cardSets.map (·.id.val)

/-- The numbers of the copies. -/
def copyNumbers (db : Database) : List Nat :=
  db.copies.map (·.id.val)

/-- Either there is no row to change, or the row of the set is changed in its place. -/
theorem modifyCardSet_cases (db : Database) (id : CardSetId) (f : CardSet → CardSet) :
    db.modifyCardSet id f = db ∨
      ∃ i cs, db.cardSets[i]? = some cs ∧ cs.id = id ∧
        db.modifyCardSet id f = { db with cardSets := db.cardSets.modify i f } := by
  rw [modifyCardSet]
  split
  · rename_i i hi
    obtain ⟨cs, hcs, hid⟩ := place?_some hi
    exact Or.inr ⟨i, cs, hcs, RowId.ext hid, rfl⟩
  · exact Or.inl rfl

theorem modifyCardSet_map {β : Type} {g : CardSet → β} (hf : ∀ cs, g (f cs) = g cs) :
    (db.modifyCardSet id f).cardSets.map g = db.cardSets.map g := by
  rcases modifyCardSet_cases db id f with h | ⟨i, cs, _, _, h⟩
  · rw [h]
  · rw [h]
    exact map_modify_of_key f hf i

/-- A change to one set keeps what each row has, when it keeps it for that set. -/
theorem modifyCardSet_forall {P : CardSet → Prop} (h : ∀ cs ∈ db.cardSets, P cs)
    (hf : ∀ cs, P cs → P (f cs)) : ∀ cs ∈ (db.modifyCardSet id f).cardSets, P cs := by
  rcases modifyCardSet_cases db id f with heq | ⟨i, _, _, _, heq⟩
  · rw [heq]
    exact h
  · rw [heq]
    intro cs hcs
    obtain ⟨j, hj⟩ := List.mem_iff_getElem?.mp hcs
    rw [List.getElem?_modify] at hj
    obtain ⟨x, hx, rfl⟩ := Option.map_eq_some_iff.mp hj
    have hp := h x (List.mem_of_getElem? hx)
    split
    · exact hf x hp
    · exact hp

theorem setNumbers_modifyCardSet (hf : ∀ cs, (f cs).id = cs.id) :
    (db.modifyCardSet id f).setNumbers = db.setNumbers :=
  modifyCardSet_map (g := fun cs : CardSet => cs.id.val) fun cs => congrArg RowId.val (hf cs)

theorem modifyCardSet_eq (db : Database) (id : CardSetId) (f : CardSet → CardSet) :
    db.modifyCardSet id f = { db with cardSets := (db.modifyCardSet id f).cardSets } := by
  rcases modifyCardSet_cases db id f with h | ⟨i, cs, _, _, h⟩ <;> rw [h]

theorem setParent_ids (db : Database) (id : CardSetId) (parent : Option CardSetId) :
    (db.setParent id parent).cardSets.map (·.id) = db.cardSets.map (·.id) :=
  modifyCardSet_map fun _ => rfl

theorem setNumbers_setParent (db : Database) (id : CardSetId) (parent : Option CardSetId) :
    (db.setParent id parent).setNumbers = db.setNumbers :=
  setNumbers_modifyCardSet fun _ => rfl

theorem setParent_eq (db : Database) (id : CardSetId) (parent : Option CardSetId) :
    db.setParent id parent = { db with cardSets := (db.setParent id parent).cardSets } :=
  modifyCardSet_eq db id _

theorem setParent_names (db : Database) (id : CardSetId) (parent : Option CardSetId) :
    (db.setParent id parent).cardSets.map (·.name) = db.cardSets.map (·.name) :=
  modifyCardSet_map fun _ => rfl

/-- A set keeps its number when the numbers of the rows stay. -/
theorem exists_set_of_ids (h : db'.cardSets.map (·.id) = db.cardSets.map (·.id))
    (hid : ∃ cs ∈ db.cardSets, cs.id = id) : ∃ cs ∈ db'.cardSets, cs.id = id := by
  have hmem : id ∈ db'.cardSets.map (·.id) := by
    rw [h]
    exact List.mem_map.mpr hid
  exact List.mem_map.mp hmem

/-- One more card set. -/
def withSet (db : Database) (d : CardSetDraft) : Database :=
  { db with
    cardSets := db.cardSets ++ [d.toCardSet ⟨db.nextCardSetId⟩]
    nextCardSetId := db.nextCardSetId + 1 }

/-- When name and parent are in order, only a number may be missing. -/
theorem insertCardSet_eq {d : CardSetDraft} (hfree : db.findCardSet d.name = none)
    (hparent : ∀ p ∈ d.parent, (db.cardSet? p).isSome) : db.insertCardSet d =
      (checkCounter idBound (db.nextCardSetId + 1)).map fun _ =>
        (db.withSet d, ⟨db.nextCardSetId⟩) := by
  rw [insertCardSet, hfree]
  cases hp : d.parent with
  | none => rfl
  | some p =>
    obtain ⟨cs, hcs⟩ := Option.isSome_iff_exists.mp (hparent p hp)
    simp only [getCardSet, hcs]
    rfl

theorem insertCardSet_of_number {d : CardSetDraft} (hfree : db.findCardSet d.name = none)
    (hparent : ∀ p ∈ d.parent, (db.cardSet? p).isSome) (hnumber : db.nextCardSetId + 1 < idBound) :
    db.insertCardSet d = .ok (db.withSet d, ⟨db.nextCardSetId⟩) := by
  rw [insertCardSet_eq hfree hparent, checkCounter_ok_iff.mpr hnumber]
  rfl

theorem insertCardSet_ok {d : CardSetDraft} (h : db.insertCardSet d = .ok (db', id)) :
    db.findCardSet d.name = none ∧ (∀ p ∈ d.parent, ∃ cs ∈ db.cardSets, cs.id = p) ∧
      db.nextCardSetId + 1 < idBound ∧ id = ⟨db.nextCardSetId⟩ ∧
      db' = { db with
        cardSets := db.cardSets ++ [d.toCardSet ⟨db.nextCardSetId⟩]
        nextCardSetId := db.nextCardSetId + 1 } := by
  have hfree : db.findCardSet d.name = none := by
    rw [insertCardSet] at h
    cases hf : db.findCardSet d.name with
    | some other => rw [hf] at h; cases h
    | none => rfl
  have hparent : ∀ p ∈ d.parent, ∃ cs, db.cardSet? p = some cs := by
    intro p hp
    rw [Option.mem_def] at hp
    rw [insertCardSet, hfree, hp] at h
    obtain ⟨cs, hcs, _⟩ := Outcome.bind_ok (x := db.getCardSet p) h
    exact ⟨cs, getCardSet_eq_ok_iff.mp hcs⟩
  rw [insertCardSet_eq hfree fun p hp => Option.isSome_iff_exists.mpr (hparent p hp)] at h
  obtain ⟨_, hnumber, hrow⟩ := Outcome.map_ok h
  obtain ⟨rfl, rfl⟩ := Prod.mk.inj hrow
  refine ⟨hfree, fun p hp => ?_, checkCounter_ok_iff.mp hnumber, rfl, rfl⟩
  obtain ⟨cs, hcs⟩ := hparent p hp
  exact ⟨cs, cardSet?_some hcs⟩

theorem findCardSet_eq_none {name : String} (h : db.findCardSet name = none) :
    ∀ cs ∈ db.cardSets, cs.name ≠ name := by
  intro cs hcs
  have hnone := List.find?_eq_none.mp (Option.map_eq_none_iff.mp h) cs hcs
  simpa using hnone

theorem findCardSet_some {name : String} (h : db.findCardSet name = some id) :
    ∃ cs ∈ db.cardSets, cs.id = id ∧ cs.name = name := by
  obtain ⟨cs, hcs, hid⟩ := Option.map_eq_some_iff.mp h
  exact ⟨cs, List.mem_of_find?_eq_some hcs, hid, by simpa using List.find?_some hcs⟩

theorem removeCardSet_some {cs : CardSet} (h : db.removeCardSet id = some (db', cs)) :
    ∃ i, db.cardSets[i]? = some cs ∧ cs.id = id ∧
      db' = { db with
        cardSets := db.cardSets.eraseIdx i
        copies := db.copies.filter (·.cardSet != id) } := by
  obtain ⟨i, hi, h⟩ := Option.bind_eq_some_iff.mp h
  obtain ⟨row, hrow, h⟩ := Option.bind_eq_some_iff.mp h
  obtain ⟨rfl, rfl⟩ := Prod.mk.inj (Option.some.inj h)
  obtain ⟨row', hrow', hid⟩ := place?_some hi
  rw [hrow, Option.some.injEq] at hrow'
  exact ⟨i, hrow, RowId.ext (hrow' ▸ hid), rfl⟩

/-! Copies -/

theorem copyIds_val (next n : Nat) : (copyIds next n).map (·.val) = List.range' next n := by
  induction n generalizing next with
  | zero => rfl
  | succ n ih => rw [copyIds, List.map_cons, ih, List.range'_succ]

theorem addCopy_eq (db : Database) (set : CardSetId) (printing : PrintingId) :
    (db.addCopy set printing).1 = db.addCopies set printing 1 := rfl

theorem dropFirst_sublist {α : Type} (p : α → Bool) (n : Nat) (xs : List α) :
    (dropFirst p n xs).Sublist xs := by
  induction xs generalizing n with
  | nil => cases n <;> exact List.Sublist.refl []
  | cons x xs ih =>
    cases n with
    | zero => exact List.Sublist.refl _
    | succ n =>
      rw [dropFirst]
      split
      · exact (ih n).cons x
      · exact (ih (n + 1)).cons_cons x

end Database
end CardBinder
