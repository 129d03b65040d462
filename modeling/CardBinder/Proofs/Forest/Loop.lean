import CardBinder.Proofs.Forest.Ancestry
import Mathlib.Data.List.Cycle

/-! Loops of parents, wherever the parents lead: the walk up from a set on a loop goes round that loop. -/

namespace CardBinder.Database
variable {db : Database} {id x y first current : CardSetId} {seen rest ids : List CardSetId}
  {fuel : Nat}

/-- The card sets stand in the order of their numbers. -/
def SetsAscend (db : Database) : Prop :=
  db.cardSets.Pairwise fun a b => a.id.val < b.id.val

/-- A row says that `parent` is the parent of `child`; there need not be a row of `parent`. -/
def ParentLink (db : Database) (child parent : CardSetId) : Prop :=
  ∃ cs ∈ db.cardSets, cs.id = child ∧ cs.parent = some parent

/-- A row gives a set its name. -/
def Named (db : Database) (id : CardSetId) (name : String) : Prop :=
  ∃ cs ∈ db.cardSets, cs.id = id ∧ cs.name = name

/-- Different sets, each followed by its parent all the way round. -/
structure IsLoop (db : Database) (c : Cycle CardSetId) : Prop where
  nonempty : c ≠ Cycle.nil
  once : c.Nodup
  linked : c.Chain db.ParentLink

theorem setsAscend_iff :
    db.SetsAscend ↔ (db.cardSets.map (·.id)).Pairwise fun a b => a.val < b.val := by
  rw [SetsAscend, List.pairwise_map]

theorem SetsAscend.nodup_ids (h : db.SetsAscend) : (db.cardSets.map (·.id)).Nodup := by
  refine (setsAscend_iff.mp h).imp ?_
  rintro a b hlt rfl
  exact Nat.lt_irrefl _ hlt

theorem SetsAscend.cardSet?_eq_some_iff (h : db.SetsAscend) {cs : CardSet} :
    db.cardSet? id = some cs ↔ cs ∈ db.cardSets ∧ cs.id = id := by
  obtain ⟨next, ho⟩ := exists_inOrder h
  rw [cardSet?, rowAt?_eq_some_iff ho, RowId.ext_iff]

theorem SetsAscend.parent?_eq_some_iff (h : db.SetsAscend) :
    db.parent? x = some y ↔ db.ParentLink x y := by
  simp only [parent?, Option.bind_eq_some_iff, h.cardSet?_eq_some_iff, ParentLink, and_assoc]

theorem SetsAscend.parentLink_eq (h : db.SetsAscend) :
    db.ParentLink = fun child parent => db.parent? child = some parent := by
  funext child parent
  exact propext h.parent?_eq_some_iff.symm

theorem SetsAscend.cardSetName (h : db.SetsAscend) {cs : CardSet} (hcs : cs ∈ db.cardSets) :
    db.cardSetName cs.id = cs.name := by
  rw [Database.cardSetName, h.cardSet?_eq_some_iff.mpr ⟨hcs, rfl⟩]

theorem SetsAscend.getCardSet (h : db.SetsAscend) {cs : CardSet} (hcs : cs ∈ db.cardSets) :
    db.getCardSet cs.id = .ok cs := by
  rw [Database.getCardSet, h.cardSet?_eq_some_iff.mpr ⟨hcs, rfl⟩]

theorem SetsAscend.named (h : db.SetsAscend) (hid : id ∈ db.cardSets.map (·.id)) :
    db.Named id (db.cardSetName id) := by
  obtain ⟨cs, hcs, rfl⟩ := List.mem_map.mp hid
  exact ⟨cs, hcs, rfl, (h.cardSetName hcs).symm⟩

/-- Changing a set changes the row of its number, wherever it is. -/
theorem SetsAscend.modifyCardSet_eq_map (h : db.SetsAscend) (id : CardSetId)
    (f : CardSet → CardSet) :
    db.modifyCardSet id f =
      { db with cardSets := db.cardSets.map fun cs => if cs.id = id then f cs else cs } := by
  obtain ⟨next, ho⟩ := exists_inOrder h
  rw [modifyCardSet]
  split
  · rename_i i hi
    obtain ⟨cs, hcs, hid⟩ := place?_some hi
    refine congrArg (fun rows => { db with cardSets := rows }) (List.ext_getElem? fun j => ?_)
    rw [List.getElem?_modify, List.getElem?_map]
    refine Option.map_congr fun row hrow => ?_
    have hplace : i = j ↔ row.id = id := by
      constructor
      · rintro rfl
        obtain rfl := Option.some.inj (hcs.symm.trans hrow)
        exact RowId.ext hid
      · rintro rfl
        have hj := (place?_eq_some_iff ho).mpr ⟨row, hrow, rfl⟩
        exact Option.some.inj (hi.symm.trans hj)
    simp [hplace]
  · rename_i hnone
    have hid : ∀ cs ∈ db.cardSets, cs.id ≠ id := by
      rintro cs hcs rfl
      obtain ⟨i, hi⟩ := List.mem_iff_getElem?.mp hcs
      have hsome := (place?_eq_some_iff ho).mpr ⟨cs, hi, rfl⟩
      rw [hnone] at hsome
      cases hsome
    have hsame : db.cardSets.map (fun cs => if cs.id = id then f cs else cs) =
        db.cardSets.map fun cs => cs :=
      List.map_congr_left fun cs hcs => if_neg (hid cs hcs)
    rw [hsame, List.map_id']

theorem ParentLink.mem (h : db.ParentLink x y) : x ∈ db.cardSets.map (·.id) := by
  obtain ⟨cs, hcs, hid, _⟩ := h
  exact List.mem_map.mpr ⟨cs, hcs, hid⟩

theorem isLoop_coe_cons : db.IsLoop (first :: rest : List CardSetId) ↔
    (first :: rest).Nodup ∧ (first :: rest ++ [first]).IsChain db.ParentLink := by
  constructor
  · rintro ⟨_, hnodup, hchain⟩
    exact ⟨Cycle.nodup_coe_iff.mp hnodup, (Cycle.chain_coe_cons _ _ _).mp hchain⟩
  · rintro ⟨hnodup, hchain⟩
    exact ⟨by simp, Cycle.nodup_coe_iff.mpr hnodup, (Cycle.chain_coe_cons _ _ _).mpr hchain⟩

/-- In a chain every element but the last leads to another one. -/
theorem exists_next {r : CardSetId → CardSetId → Prop} (h : (ids ++ [y]).IsChain r)
    (hx : x ∈ ids) : ∃ z ∈ ids ++ [y], r x z := by
  obtain ⟨before, after, rfl⟩ := List.append_of_mem hx
  rw [List.append_assoc, List.cons_append] at h
  obtain ⟨_, h, _⟩ := List.isChain_append.mp h
  cases after with
  | nil => exact ⟨y, by simp, (List.isChain_cons_cons.mp h).1⟩
  | cons z after => exact ⟨z, by simp, (List.isChain_cons_cons.mp h).1⟩

/-- The parent of a set on a loop is on it too. -/
theorem IsLoop.exists_parent (h : db.IsLoop ids) (hx : x ∈ ids) :
    ∃ z ∈ ids, db.ParentLink x z := by
  cases ids with
  | nil => cases hx
  | cons first rest =>
    obtain ⟨z, hz, hlink⟩ := exists_next (isLoop_coe_cons.mp h).2 hx
    refine ⟨z, ?_, hlink⟩
    rcases List.mem_append.mp hz with hz | hz
    · exact hz
    · exact List.mem_singleton.mp hz ▸ List.mem_cons_self

theorem IsLoop.mem_rows (h : db.IsLoop ids) (hx : x ∈ ids) : x ∈ db.cardSets.map (·.id) := by
  obtain ⟨_, _, hlink⟩ := h.exists_parent hx
  exact hlink.mem

/-- A loop can be read from any of its sets on. -/
theorem exists_cons_of_mem (hx : x ∈ ids) :
    ∃ rest, (ids : Cycle CardSetId) = (x :: rest : List CardSetId) := by
  obtain ⟨before, after, rfl⟩ := List.append_of_mem hx
  exact ⟨after ++ before, Cycle.coe_eq_coe.mpr List.isRotated_append⟩

/-! The walk up from a set -/

theorem ancestorsFrom_isChain (db : Database) (fuel : Nat) (seen : List CardSetId)
    (current : CardSetId) :
    (current :: db.ancestorsFrom fuel seen current).IsChain fun a b => db.parent? a = some b := by
  induction fuel generalizing seen current with
  | zero => exact List.isChain_singleton current
  | succ fuel ih =>
    rw [ancestorsFrom]
    split
    · exact List.isChain_singleton current
    · rename_i parent hparent
      split
      · exact List.isChain_singleton current
      · exact List.isChain_cons_cons.mpr ⟨hparent, ih (parent :: seen) parent⟩

/-- The walk comes to no set twice, and to none that was seen before. -/
theorem ancestorsFrom_nodup (db : Database) (fuel : Nat) (seen : List CardSetId)
    (current : CardSetId) :
    (db.ancestorsFrom fuel seen current).Nodup ∧
      ∀ x ∈ db.ancestorsFrom fuel seen current, x ∉ seen := by
  induction fuel generalizing seen current with
  | zero => exact ⟨List.nodup_nil, by simp [ancestorsFrom]⟩
  | succ fuel ih =>
    rw [ancestorsFrom]
    split
    · exact ⟨List.nodup_nil, by simp⟩
    · rename_i parent _
      split
      · exact ⟨List.nodup_nil, by simp⟩
      · rename_i hunseen
        obtain ⟨hnodup, hnew⟩ := ih (parent :: seen) parent
        refine ⟨List.nodup_cons.mpr ⟨fun hmem => hnew parent hmem List.mem_cons_self, hnodup⟩, ?_⟩
        intro x hx
        rcases List.mem_cons.mp hx with rfl | hx
        · simpa using hunseen
        · exact fun hmem => hnew x hx (List.mem_cons_of_mem _ hmem)

theorem ancestry_nodup (db : Database) (id : CardSetId) : (db.ancestry id).Nodup := by
  obtain ⟨hnodup, hnew⟩ := ancestorsFrom_nodup db db.cardSets.length [id] id
  exact List.nodup_cons.mpr ⟨fun hmem => hnew id hmem (List.mem_singleton_self id), hnodup⟩

/-- More steps than there are rows lead nowhere else. -/
theorem ancestorsFrom_stable (more : Nat) (hfuel : db.cardSets.length < fuel + seen.length)
    (hnodup : seen.Nodup) (hrows : ∀ x ∈ seen, x ≠ current → x ∈ db.cardSets.map (·.id)) :
    db.ancestorsFrom (fuel + more) seen current = db.ancestorsFrom fuel seen current := by
  -- whatever was seen has a row, once the walk goes on
  have hleft : ∀ {seen : List CardSetId} {current parent}, db.parent? current = some parent →
      (∀ x ∈ seen, x ≠ current → x ∈ db.cardSets.map (·.id)) →
      ∀ x ∈ seen, x ∈ db.cardSets.map (·.id) := by
    intro seen current parent hparent hrows x hx
    by_cases hx' : x = current
    · obtain ⟨cs, hcs, hid, _⟩ := parent?_some hparent
      exact List.mem_map.mpr ⟨cs, hcs, hid.trans hx'.symm⟩
    · exact hrows x hx hx'
  induction fuel generalizing seen current with
  | zero =>
    cases more with
    | zero => rfl
    | succ more =>
      rw [Nat.zero_add, ancestorsFrom, ancestorsFrom]
      split
      · rfl
      · rename_i parent hparent
        have hlen := (List.subperm_of_subset hnodup (hleft hparent hrows)).length_le
        rw [List.length_map] at hlen
        omega
  | succ fuel ih =>
    rw [Nat.succ_add, ancestorsFrom, ancestorsFrom]
    split
    · rfl
    · rename_i parent hparent
      split
      · rfl
      · rename_i hunseen
        rw [List.contains_iff_mem] at hunseen
        have hseen := hleft hparent hrows
        rw [ih (by rw [List.length_cons]; omega) (List.nodup_cons.mpr ⟨hunseen, hnodup⟩)]
        intro x hx hne
        exact hseen x ((List.mem_cons.mp hx).resolve_left hne)

/-- The walk takes a way on which no set comes twice, up to one whose parent was seen. -/
theorem ancestorsFrom_eq (hfuel : rest.length ≤ fuel)
    (hchain : (current :: rest ++ [first]).IsChain fun a b => db.parent? a = some b)
    (hnodup : rest.Nodup) (hnew : ∀ x ∈ rest, x ∉ seen) (hfirst : first ∈ seen) :
    db.ancestorsFrom fuel seen current = rest := by
  induction rest generalizing fuel seen current with
  | nil =>
    obtain ⟨hparent, _⟩ := List.isChain_cons_cons.mp hchain
    cases fuel with
    | zero => rfl
    | succ fuel => simp [ancestorsFrom, hparent, hfirst]
  | cons parent rest ih =>
    obtain ⟨hparent, hchain⟩ := List.isChain_cons_cons.mp hchain
    obtain ⟨hnotin, hnodup⟩ := List.nodup_cons.mp hnodup
    obtain ⟨fuel, rfl⟩ : ∃ f, fuel = f + 1 := ⟨fuel - 1, by rw [List.length_cons] at hfuel; omega⟩
    have hunseen : parent ∉ seen := hnew parent List.mem_cons_self
    rw [ancestorsFrom, hparent]
    simp only [List.contains_iff_mem, hunseen, if_false]
    rw [ih (by simpa using hfuel) hchain hnodup ?_ (List.mem_cons_of_mem _ hfirst)]
    intro x hx hmem
    rcases List.mem_cons.mp hmem with rfl | hmem
    · exact hnotin hx
    · exact hnew x (List.mem_cons_of_mem _ hx) hmem

/-! Sets on loops -/

/-- What the walk up from a set on a loop goes round is that loop. -/
theorem SetsAscend.isLoop_ancestry (h : db.SetsAscend) (hloop : db.onLoop id = true) :
    db.IsLoop (db.ancestry id) := by
  rw [onLoop, beq_iff_eq, revisited?] at hloop
  obtain ⟨last, hlast, hparent⟩ := Option.bind_eq_some_iff.mp hloop
  refine isLoop_coe_cons.mpr ⟨ancestry_nodup db id, ?_⟩
  rw [h.parentLink_eq]
  refine List.isChain_append.mpr ⟨ancestorsFrom_isChain db _ _ id, List.isChain_singleton id, ?_⟩
  intro a ha b hb
  obtain rfl : last = a := Option.some.inj (hlast.symm.trans ha)
  obtain rfl : id = b := by simpa using hb
  exact hparent

/-- The walk up from a set of a loop goes round it. -/
theorem SetsAscend.ancestry_eq (h : db.SetsAscend)
    (hloop : db.IsLoop (first :: rest : List CardSetId)) :
    db.ancestry first = first :: rest ∧ db.onLoop first = true := by
  have hrows : first :: rest ⊆ db.cardSets.map (·.id) := fun x hx => hloop.mem_rows hx
  obtain ⟨hnodup, hchain⟩ := isLoop_coe_cons.mp hloop
  have hlen := (List.subperm_of_subset hnodup hrows).length_le
  rw [List.length_map, List.length_cons] at hlen
  rw [h.parentLink_eq] at hchain
  obtain ⟨hnotin, hnodup⟩ := List.nodup_cons.mp hnodup
  have hwalk : db.ancestry first = first :: rest := by
    rw [ancestry, ancestorsFrom_eq (by omega) hchain hnodup ?_ (List.mem_singleton_self first)]
    intro x hx hmem
    exact hnotin (List.mem_singleton.mp hmem ▸ hx)
  refine ⟨hwalk, ?_⟩
  obtain ⟨_, _, hclose⟩ := List.isChain_append.mp hchain
  obtain ⟨last, hlast⟩ : ∃ last, (first :: rest).getLast? = some last :=
    ⟨_, List.getLast?_eq_some_getLast (List.cons_ne_nil first rest)⟩
  rw [onLoop, revisited?, hwalk, hlast, Option.bind_some, hclose last hlast first rfl, beq_iff_eq]

/-- The sets of a loop all have the same loop above them. -/
theorem SetsAscend.ancestry_of_mem (h : db.SetsAscend) (hloop : db.onLoop id = true)
    (hx : x ∈ db.ancestry id) :
    db.onLoop x = true ∧ (db.ancestry x : Cycle CardSetId) = db.ancestry id := by
  obtain ⟨rest, hrest⟩ := exists_cons_of_mem hx
  obtain ⟨hwalk, hx⟩ := h.ancestry_eq (hrest ▸ h.isLoop_ancestry hloop)
  exact ⟨hx, by rw [hwalk, hrest]⟩

theorem SetsAscend.mem_ancestry_symm (h : db.SetsAscend) (hloop : db.onLoop id = true)
    (hx : x ∈ db.ancestry id) : id ∈ db.ancestry x := by
  obtain ⟨_, hsame⟩ := h.ancestry_of_mem hloop hx
  rw [← Cycle.mem_coe_iff, hsame, Cycle.mem_coe_iff]
  exact List.mem_cons_self

end CardBinder.Database
