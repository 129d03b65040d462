import CardBinder.Proofs.Holder.Insertion
import CardBinder.Proofs.Operation.Moves
import CardBinder.Proofs.Supply.Shortfalls

/-! Copies put into a set come last, and those taken out are the first ones of their printing. -/

namespace CardBinder

/-- What is put into a set, as copies that were found. -/
def CopyCount.found (c : CopyCount) : FoundCopies :=
  ⟨c.card, c.expansion, c.count⟩

/-- What is put into a set, or taken out of it, is copies of this. -/
def CopyCount.holding (c : CopyCount) (set : CardSetId) : Holding :=
  ⟨set, c.card, c.expansion⟩

namespace Database
variable {db db' : Database} {set : CardSetId} {card : CardId} {expansion : Option LookupId}
  {c : CopyCount} {cs : CardSet} {x : Copy} {id : PrintingId}

/-- How many copies there are of a printing in a set. -/
def held (db : Database) (x : Holding) : Nat :=
  db.copies.countP (db.holding? · == some x)

/-! Dropping the first rows of a kind -/

section DropFirst
variable {α : Type} (p : α → Bool) (n : Nat) (xs : List α)

theorem perm_dropFirst : ((xs.filter p).take n ++ dropFirst p n xs).Perm xs := by
  induction xs generalizing n with
  | nil => cases n <;> exact List.Perm.refl []
  | cons x xs ih =>
    cases n with
    | zero => exact List.Perm.refl _
    | succ n =>
      rw [dropFirst]
      by_cases hx : p x
      · rw [if_pos hx, List.filter_cons_of_pos hx, List.take_succ_cons, List.cons_append]
        exact (ih n).cons x
      · rw [if_neg hx, List.filter_cons_of_neg hx]
        exact List.perm_middle.trans ((ih (n + 1)).cons x)

/-- The other rows stay where they are. -/
theorem dropFirst_eq_filter [DecidableEq α] {xs : List α} (h : xs.Nodup) :
    dropFirst p n xs = xs.filter fun x => !((xs.filter p).take n).contains x := by
  induction xs generalizing n with
  | nil => cases n <;> rfl
  | cons x xs ih =>
    obtain ⟨hx, hrest⟩ := List.nodup_cons.mp h
    cases n with
    | zero => simp [dropFirst]
    | succ n =>
      rw [dropFirst]
      by_cases hp : p x
      · rw [if_pos hp, ih n hrest, List.filter_cons_of_pos hp, List.take_succ_cons,
          List.filter_cons_of_neg (by simp)]
        refine List.filter_congr fun y hy => ?_
        have hne : y ≠ x := fun heq => hx (heq ▸ hy)
        simp [hne]
      · have hnot : x ∉ (xs.filter p).take (n + 1) := fun hmem =>
          hp (List.mem_filter.mp (List.mem_of_mem_take hmem)).2
        rw [if_neg hp, ih (n + 1) hrest, List.filter_cons_of_neg hp,
          List.filter_cons_of_pos (by simpa using hnot)]

end DropFirst

/-- Copies may come and go as long as those that are there are of printings, in sets. -/
theorem Referential.of_copies (h : db.Referential) (hsets : db'.cardSets = db.cardSets)
    (hprintings : ∃ new, db'.printings = db.printings ++ new)
    (hcopies : ∀ x ∈ db'.copies, x ∈ db.copies ∨
      (∃ cs ∈ db.cardSets, cs.id = x.cardSet) ∧ (db'.printing? x.printing).isSome) :
    db'.Referential where
  parents := hsets ▸ h.parents
  acyclic := by
    intro id n
    have hparent : ∀ id, db'.parent? id = db.parent? id := by
      intro id
      rw [parent?, parent?, cardSet?, cardSet?, hsets]
    rw [climb_congr hparent]
    exact h.acyclic id n
  copySets x hx := by
    rw [hsets]
    exact (hcopies x hx).elim (h.copySets x) And.left
  copyPrintings x hx := by
    obtain ⟨new, hnew⟩ := hprintings
    refine (hcopies x hx).elim (fun hold => ?_) And.right
    obtain ⟨p, hp⟩ := Option.isSome_iff_exists.mp (h.copyPrintings x hold)
    exact Option.isSome_iff_exists.mpr ⟨p, printing?_of_append hnew hp⟩

/-! Copies that are put in -/

/-- A database with more copies of a printing in a set. -/
def withCopies (db : Database) (set : CardSetId) (c : CopyCount) : Database :=
  PreparedSet.insertCopies set db c.found

theorem withCopies_eq (db : Database) (set : CardSetId) (c : CopyCount) :
    db.withCopies set c = { db with
      printings := (db.withCopies set c).printings
      copies := db.copies ++ madeCopies set db c.found
      nextCopyId := db.nextCopyId + c.count } := by
  rw [withCopies, insertCopies_eq]
  rfl

theorem copies_withCopies (db : Database) (set : CardSetId) (c : CopyCount) :
    (db.withCopies set c).copies = db.copies ++ madeCopies set db c.found := by
  rw [withCopies_eq]

theorem printings_withCopies (db : Database) (set : CardSetId) (c : CopyCount) :
    ∃ new, (db.withCopies set c).printings = db.printings ++ new ∧ new.length ≤ 1 := by
  rw [withCopies, printings_insertCopies]
  exact printingFor_append db c.card c.expansion

theorem length_printings_withCopies (hfit : db.printings.length < idBound) (set : CardSetId)
    (c : CopyCount) : (db.withCopies set c).printings.length ≤ idBound := by
  obtain ⟨new, hnew, hfew⟩ := printings_withCopies db set c
  rw [hnew, List.length_append]
  omega

theorem isSome_card? (h : db.HasCard card) : (db.card? card).isSome := by
  obtain ⟨row, hrow, _⟩ := h
  exact Option.isSome_iff_exists.mpr ⟨row, hrow⟩

theorem putCopies_missing (hcard : db.HasCard c.card) (hset : set ∉ db.cardSets.map (·.id)) :
    db.putCopies set c = .error (.setNotFound ("#" ++ toString set)) := by
  obtain ⟨row, hrow⟩ := Option.isSome_iff_exists.mp (isSome_card? hcard)
  rw [putCopies, hrow, getCardSet_missing hset]
  rfl

theorem putCopies_eq (hcard : db.HasCard c.card) (hcs : db.getCardSet set = .ok cs)
    (hfit : db.nextCopyId + c.count < idBound) :
    db.putCopies set c = .ok (db.withCopies set c, cs) := by
  obtain ⟨row, hrow⟩ := Option.isSome_iff_exists.mp (isSome_card? hcard)
  have hcheck : (db.withCopies set c).checkCopyIds = .ok () := by
    rw [checkCopyIds_ok_iff, withCopies_eq]
    exact hfit
  have hput : db.putCopies set c =
      (db.withCopies set c).checkCopyIds.map fun _ => (db.withCopies set c, cs) := by
    rw [putCopies, hrow, hcs]
    rfl
  rw [hput, hcheck]
  rfl

/-- The numbers of new copies follow the ones that were given before. -/
theorem madeCopies_ids (set : CardSetId) :
    (madeCopies set db c.found).map (·.id.val) = List.range' db.nextCopyId c.count := by
  rw [← copyIds_val, madeCopies, List.map_map]
  rfl

theorem map_holding?_withCopies (h : Numbered (·.id.val) db.printings)
    (hfit : db.printings.length < idBound) (set : CardSetId) (c : CopyCount) :
    (madeCopies set db c.found).map (db.withCopies set c).holding? =
      List.replicate c.count (some (c.holding set)) := by
  rw [withCopies, map_holding?_madeCopies h set c.found (length_printings_withCopies hfit set c),
    FoundCopies.holdings, List.map_replicate]
  rfl

theorem Valid.withCopies (hv : db.Valid) (hk : db.Knows c.card c.expansion)
    (hset : ∃ cs ∈ db.cardSets, cs.id = set) (hfit : db.nextCopyId + c.count < idBound) :
    (db.withCopies set c).Valid where
  toOrderly := by
    have hedits := (Edits.none : Edits db.Knows db 0 0 db).putFor set hk hfit
    exact hedits.orderly hv.toOrderly
  toReferential := by
    obtain ⟨new, hnew, _⟩ := printings_withCopies db set c
    refine hv.toReferential.of_copies (by rw [withCopies_eq]) ⟨new, hnew⟩ fun x hx => ?_
    rw [copies_withCopies] at hx
    refine (List.mem_append.mp hx).imp_right fun hx => ?_
    obtain ⟨rfl, hprinting⟩ := mem_madeCopies hv.printings set c.found x hx
    exact ⟨hset, hprinting⟩

/-! Copies that are taken out -/

/-- Printings are stored once, so that a search finds the only one of a card and an expansion. -/
theorem Orderly.findPrinting_eq_some_iff (h : db.Orderly) (hfit : db.printings.length ≤ idBound) :
    db.findPrinting card expansion = some id ↔
      ∃ p, db.printing? id = some p ∧ p.card = card ∧ p.expansion = expansion := by
  have hplaced := h.printings.placed hfit
  have honce : (db.printings.reverse.map fun p => (p.card, p.expansion)).Nodup := by
    rw [List.map_reverse, List.nodup_reverse]
    exact h.printingsOnce
  have hfind := fun r => find?_eq_some_iff_of_nodup (r := r) (k := (card, expansion))
    (p := fun p => p.card == card && p.expansion == expansion) honce (by simp)
  simp only [findPrinting, Option.map_eq_some_iff, hfind, List.mem_reverse, Prod.mk.injEq]
  constructor
  · rintro ⟨p, ⟨hp, hof⟩, rfl⟩
    exact ⟨p, hplaced.getElem?_key hp, hof⟩
  · rintro ⟨p, hp, hof⟩
    exact ⟨p, ⟨List.mem_of_getElem? hp, hof⟩, RowId.ext (hplaced _ _ hp)⟩

theorem Orderly.holding?_eq_some_iff (h : db.Orderly) (hfit : db.printings.length ≤ idBound) :
    db.holding? x = some ⟨set, card, expansion⟩ ↔
      x.cardSet = set ∧ db.findPrinting card expansion = some x.printing := by
  simp only [h.findPrinting_eq_some_iff hfit, holding?, Option.map_eq_some_iff, Holding.mk.injEq]
  constructor
  · rintro ⟨p, hp, rfl, rfl, rfl⟩
    exact ⟨rfl, p, hp, rfl, rfl⟩
  · rintro ⟨rfl, p, hp, rfl, rfl⟩
    exact ⟨p, hp, rfl, rfl, rfl⟩

/-- Copies of a printing that has a row are found by its number, and without one there are none. -/
theorem Orderly.holding?_beq (h : db.Orderly) (hfit : db.printings.length ≤ idBound)
    (hid : db.findPrinting card expansion = some id) (x : Copy) :
    (db.holding? x == some ⟨set, card, expansion⟩) = (x.cardSet == set && x.printing == id) := by
  rw [Bool.eq_iff_iff, beq_iff_eq, h.holding?_eq_some_iff hfit, hid, Option.some_inj,
    eq_comm (a := id)]
  simp

theorem Orderly.available_eq (h : db.Orderly) (hfit : db.printings.length ≤ idBound)
    (set : CardSetId) (card : CardId) (expansion : Option LookupId) :
    db.available set card expansion = db.held ⟨set, card, expansion⟩ := by
  rw [available, held]
  cases hid : db.findPrinting card expansion with
  | none =>
    refine (List.countP_eq_zero.mpr fun x _ hx => ?_).symm
    have hfound := ((h.holding?_eq_some_iff hfit).mp (beq_iff_eq.mp hx)).2
    rw [hid] at hfound
    cases hfound
  | some id =>
    simp only
    rw [proper_printingCounts.count_eq, countIf_printingCounts, copiesOf, List.countP_filter]
    refine List.countP_congr fun x _ => ?_
    rw [h.holding?_beq hfit hid, Bool.and_comm]

/-- A database without the first copies of a printing in a set. -/
def withoutCopies (db : Database) (set : CardSetId) (c : CopyCount) : Database :=
  { db with copies := dropFirst (db.holding? · == some (c.holding set)) c.count db.copies }

theorem Orderly.takeCopies_eq (h : db.Orderly) (hfit : db.printings.length ≤ idBound)
    (hcs : db.getCardSet set = .ok cs) : db.takeCopies set c =
      if db.held (c.holding set) < c.count then
        .error (.invalidRemoval (db.cardName c.card) (db.expansionName c.expansion) c.count
          (db.held (c.holding set)))
      else .ok (db.withoutCopies set c, cs) := by
  rw [takeCopies, hcs]
  simp only [bind, Except.bind, h.available_eq hfit]
  rw [← CopyCount.holding]
  split
  · rfl
  · rename_i henough
    cases hid : db.findPrinting c.card c.expansion with
    | none =>
      have hnone : db.held (c.holding set) = 0 := by
        rw [CopyCount.holding, ← h.available_eq hfit, available, hid]
      have hcount : c.count = 0 := by omega
      rw [withoutCopies, hcount, dropFirst]
      rfl
    | some id =>
      rw [withoutCopies, CopyCount.holding, funext (h.holding?_beq hfit hid)]
      rfl

theorem Valid.withoutCopies (hv : db.Valid) (set : CardSetId) (c : CopyCount) :
    (db.withoutCopies set c).Valid where
  toOrderly :=
    have hsub := dropFirst_sublist (db.holding? · == some (c.holding set)) c.count db.copies
    have hcatalog : (db.withoutCopies set c).CatalogValid :=
      hv.toCatalogValid.of_same ⟨rfl, rfl, rfl, rfl, rfl, rfl⟩
    { hcatalog with
      printings := hv.printings
      printingsOnce := hv.printingsOnce
      printingsKnown := hv.printingsKnown
      cardSets := hv.cardSets
      cardSetsFit := hv.cardSetsFit
      names := hv.names
      copies := ⟨hv.copies.ascends.sublist hsub, fun x hx => hv.copies.below x (hsub.subset hx)⟩
      copiesFit := hv.copiesFit }
  toReferential := hv.toReferential.of_copies rfl ⟨[], (List.append_nil _).symm⟩
    fun _ hx => .inl ((dropFirst_sublist _ _ _).subset hx)

/-- The copies that are taken out are the ones with the lowest numbers. -/
theorem Valid.withoutCopies_eq (hv : db.Valid) (set : CardSetId) (c : CopyCount)
    (henough : c.count ≤ db.held (c.holding set)) :
    ∃ gone : List Copy, gone.Nodup ∧ gone.length = c.count ∧
      (∀ x ∈ gone, x ∈ db.copies ∧ db.holding? x = some (c.holding set)) ∧
      (db.withoutCopies set c).copies = db.copies.filter (fun x => !gone.contains x) ∧
      ∀ x ∈ gone, ∀ y ∈ (db.withoutCopies set c).copies, db.holding? y = some (c.holding set) →
        x.id.val < y.id.val := by
  obtain ⟨those, hthose⟩ :
      ∃ those, those = db.copies.filter (db.holding? · == some (c.holding set)) := ⟨_, rfl⟩
  have hnodup : db.copies.Nodup := hv.copies.nodup.of_map _
  have hkept : (db.withoutCopies set c).copies =
      db.copies.filter fun x => !(those.take c.count).contains x := by
    rw [Database.withoutCopies, dropFirst_eq_filter _ _ hnodup, hthose]
  refine ⟨those.take c.count, ?_, ?_, ?_, hkept, ?_⟩
  · exact hthose ▸ (hnodup.filter _).sublist (List.take_sublist _ _)
  · rw [List.length_take, hthose, ← List.countP_eq_length_filter]
    exact Nat.min_eq_left henough
  · intro x hx
    obtain ⟨hmem, hof⟩ := List.mem_filter.mp (hthose ▸ List.mem_of_mem_take hx)
    exact ⟨hmem, beq_iff_eq.mp hof⟩
  · intro x hx y hy hof
    obtain ⟨hmem, hnot⟩ := List.mem_filter.mp (hkept ▸ hy)
    have hrest : y ∈ those.drop c.count := by
      have hthat : y ∈ those := hthose ▸ List.mem_filter.mpr ⟨hmem, beq_iff_eq.mpr hof⟩
      rw [← List.take_append_drop c.count those] at hthat
      exact (List.mem_append.mp hthat).resolve_left (by simpa using hnot)
    have hascends : those.Pairwise fun a b => a.id.val < b.id.val :=
      hthose ▸ hv.copies.ascends.filter _
    rw [← List.take_append_drop c.count those] at hascends
    exact (List.pairwise_append.mp hascends).2.2 x hx y hrest

/-! Copies that are put in and taken out again -/

/-- Where a copy is, and which printing it is of. -/
def place (x : Copy) : CardSetId × PrintingId :=
  (x.cardSet, x.printing)

section Restored
variable (hv : db.Valid) (hfit : db.printings.length < idBound)
include hv hfit

theorem Valid.held_withCopies (set : CardSetId) (c : CopyCount) :
    (db.withCopies set c).held (c.holding set) = db.held (c.holding set) + c.count := by
  obtain ⟨new, hnew, _⟩ := printings_withCopies db set c
  rw [held, copies_withCopies, List.countP_append]
  refine congrArg₂ (· + ·) (List.countP_congr fun x hx => ?_) ?_
  · rw [holding?_of_printings hnew (hv.copyPrintings x hx)]
  · have hmade := congrArg (List.countP (· == some (c.holding set)))
      (map_holding?_withCopies hv.printings hfit set c)
    rw [List.countP_map] at hmade
    refine hmade.trans ?_
    rw [List.countP_replicate, if_pos (beq_self_eq_true _)]

/-- The copies of the printing that is put in are those with its number. -/
theorem Valid.place_withCopies (hv' : (db.withCopies set c).Valid)
    (hx : (db.withCopies set c).holding? x = some (c.holding set)) :
    place x = (set, (db.printingFor c.card c.expansion).2) := by
  have hfit' := length_printings_withCopies hfit set c
  obtain ⟨hset, hfound⟩ := (hv'.holding?_eq_some_iff hfit').mp hx
  have hprintings : (db.withCopies set c).printings =
      (db.printingFor c.card c.expansion).1.printings := printings_insertCopies set db c.found
  obtain ⟨p, hp, hof⟩ := printing?_printingFor hv.printings c.card c.expansion (hprintings ▸ hfit')
  have hmade : (db.withCopies set c).findPrinting c.card c.expansion =
      some (db.printingFor c.card c.expansion).2 := by
    refine (hv'.findPrinting_eq_some_iff hfit').mpr ⟨p, ?_, hof⟩
    rw [printing?, hprintings]
    exact hp
  exact Prod.ext hset (Option.some.inj (hfound.symm.trans hmade))

/-- Taking out as many copies as were put in leaves as many of each printing in each set. -/
theorem Valid.places_restored (hv' : (db.withCopies set c).Valid) :
    (((db.withCopies set c).withoutCopies set c).copies.map place).Perm (db.copies.map place) := by
  obtain ⟨one, hone⟩ : ∃ one : Copy → Bool,
      one = fun x => (db.withCopies set c).holding? x == some (c.holding set) := ⟨_, rfl⟩
  have hgone : (((db.withCopies set c).copies.filter one).take c.count).map place =
      List.replicate c.count (set, (db.printingFor c.card c.expansion).2) := by
    rw [List.eq_replicate_iff, List.length_map, List.length_take, ← List.countP_eq_length_filter]
    refine ⟨Nat.min_eq_left ?_, fun q hq => ?_⟩
    · rw [hone]
      exact (Nat.le_add_left _ _).trans_eq (hv.held_withCopies hfit set c).symm
    · obtain ⟨x, hx, rfl⟩ := List.mem_map.mp hq
      have hof := (List.mem_filter.mp (List.mem_of_mem_take hx)).2
      rw [hone, beq_iff_eq] at hof
      exact hv.place_withCopies hfit hv' hof
  have hmade : (madeCopies set db c.found).map place =
      List.replicate c.count (set, (db.printingFor c.card c.expansion).2) := by
    rw [List.eq_replicate_iff]
    refine ⟨by simp [madeCopies, length_copyIds, CopyCount.found], fun q hq => ?_⟩
    simp only [madeCopies, List.map_map, List.mem_map] at hq
    obtain ⟨_, _, rfl⟩ := hq
    rfl
  have hperm := (perm_dropFirst one c.count (db.withCopies set c).copies).map place
  rw [List.map_append, hgone, copies_withCopies, List.map_append, hmade, ← copies_withCopies,
    hone] at hperm
  exact (List.perm_append_left_iff _).mp (hperm.trans List.perm_append_comm)

end Restored
end Database
end CardBinder
