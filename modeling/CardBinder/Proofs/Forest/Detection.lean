import CardBinder.Proofs.Forest.Loop
import Mathlib.Data.Finset.Max
import Mathlib.Data.Fintype.Pigeonhole
import Mathlib.Logic.Relation

/-! The search for loops lists each one once, from its smallest number on, and finds none exactly when
every way up ends. -/

namespace CardBinder.Database
variable {db : Database} {id x y : CardSetId} {ids : List CardSetId}

/-- A set on a loop, with the smallest number of all that are on it. -/
def startsLoop (db : Database) (id : CardSetId) : Bool :=
  db.onLoop id && (db.ancestry id).all fun x => decide (id.val ≤ x.val)

theorem startsLoop_iff :
    db.startsLoop id = true ↔ db.onLoop id = true ∧ ∀ x ∈ db.ancestry id, id.val ≤ x.val := by
  simp [startsLoop]

theorem SetsAscend.exists_startsLoop (h : db.SetsAscend) (hloop : db.onLoop id = true) :
    ∃ s ∈ db.ancestry id, db.startsLoop s = true := by
  obtain ⟨s, hs, hleast⟩ := (db.ancestry id).toFinset.exists_min_image RowId.val
    ⟨id, List.mem_toFinset.mpr List.mem_cons_self⟩
  rw [List.mem_toFinset] at hs
  obtain ⟨hon, hsame⟩ := h.ancestry_of_mem hloop hs
  refine ⟨s, hs, startsLoop_iff.mpr ⟨hon, fun x hx => hleast x ?_⟩⟩
  rwa [List.mem_toFinset, ← Cycle.mem_coe_iff, ← hsame, Cycle.mem_coe_iff]

/-- A loop starts at one set only. -/
theorem SetsAscend.startsLoop_unique (h : db.SetsAscend) (hx : db.startsLoop x = true)
    (hy : db.startsLoop y = true) (hmem : y ∈ db.ancestry x) : x = y := by
  rw [startsLoop_iff] at hx hy
  have hle := hx.2 y hmem
  have hge := hy.2 x (h.mem_ancestry_symm hx.1 hmem)
  exact RowId.ext (by omega)

/-- Going through the rows, a set starts its loop when no set before it was on that loop. -/
theorem SetsAscend.startsLoop_iff_before (h : db.SetsAscend) {done : List CardSetId}
    (hids : db.cardSets.map (·.id) = done ++ id :: ids) :
    db.startsLoop id = true ↔
      db.onLoop id = true ∧ ∀ y ∈ done, db.onLoop y = true → id ∉ db.ancestry y := by
  have hpairs : (done ++ id :: ids).Pairwise fun a b => a.val < b.val := by
    rw [← hids]
    exact setsAscend_iff.mp h
  obtain ⟨_, hafter, hbefore⟩ := List.pairwise_append.mp hpairs
  rw [startsLoop_iff]
  refine and_congr_right fun hloop => ⟨?_, ?_⟩
  · intro hleast y hy hon hmem
    have hle := hleast y (h.mem_ancestry_symm hon hmem)
    have hlt := hbefore y hy id List.mem_cons_self
    omega
  · intro hnone x hx
    by_contra hlt
    have hrow := (h.isLoop_ancestry hloop).mem_rows hx
    rw [hids] at hrow
    obtain ⟨hon, _⟩ := h.ancestry_of_mem hloop hx
    rcases List.mem_append.mp hrow with hdone | hrow
    · exact hnone x hdone hon (h.mem_ancestry_symm hloop hx)
    · rcases List.mem_cons.mp hrow with rfl | hrow
      · omega
      · have := (List.pairwise_cons.mp hafter).1 x hrow
        omega

/-- Each loop is reported from the set that starts it; what was reported are the loops of the rows that
the search has passed. -/
theorem SetsAscend.loopsFrom_eq (h : db.SetsAscend) {done reported : List CardSetId}
    (hids : db.cardSets.map (·.id) = done ++ ids)
    (hreported : ∀ x, x ∈ reported ↔ ∃ y ∈ done, db.onLoop y = true ∧ x ∈ db.ancestry y) :
    db.loopsFrom reported ids = (ids.filter db.startsLoop).map db.loopNames := by
  induction ids generalizing done reported with
  | nil => rfl
  | cons id ids ih =>
    have hstarts : db.startsLoop id = true ↔ db.onLoop id = true ∧ id ∉ reported := by
      rw [h.startsLoop_iff_before hids, hreported]
      simp only [not_exists, not_and]
    have hids' : db.cardSets.map (·.id) = (done ++ [id]) ++ ids := by simpa using hids
    rw [loopsFrom]
    split
    · rename_i hskip
      have hnot : ¬ db.startsLoop id = true := by
        rw [hstarts]
        rintro ⟨hon, hnew⟩
        simp [hon, hnew] at hskip
      rw [List.filter_cons_of_neg hnot]
      refine ih hids' fun x => ?_
      rw [hreported]
      constructor
      · rintro ⟨y, hy, hon, hx⟩
        exact ⟨y, List.mem_append_left _ hy, hon, hx⟩
      · rintro ⟨y, hy, hon, hx⟩
        rcases List.mem_append.mp hy with hy | hy
        · exact ⟨y, hy, hon, hx⟩
        · -- the set that is passed over is on a loop that was reported
          obtain rfl := List.mem_singleton.mp hy
          have hold : y ∈ reported := by
            by_contra hnew
            exact hnot (hstarts.mpr ⟨hon, hnew⟩)
          obtain ⟨z, hz, honz, hmem⟩ := (hreported y).mp hold
          obtain ⟨_, hsame⟩ := h.ancestry_of_mem honz hmem
          refine ⟨z, hz, honz, ?_⟩
          rwa [← Cycle.mem_coe_iff, ← hsame, Cycle.mem_coe_iff]
    · rename_i hreport
      simp only [Bool.or_eq_true, List.contains_iff_mem, Bool.not_eq_true', not_or,
        Bool.not_eq_false] at hreport
      rw [List.filter_cons_of_pos (hstarts.mpr hreport.symm), List.map_cons]
      rw [ih hids']
      intro x
      rw [List.mem_append, hreported]
      constructor
      · rintro (hx | ⟨y, hy, hon, hx⟩)
        · exact ⟨id, by simp, hreport.2, hx⟩
        · exact ⟨y, List.mem_append_left _ hy, hon, hx⟩
      · rintro ⟨y, hy, hon, hx⟩
        rcases List.mem_append.mp hy with hy | hy
        · exact Or.inr ⟨y, hy, hon, hx⟩
        · exact Or.inl (List.mem_singleton.mp hy ▸ hx)

theorem SetsAscend.findLoops_eq (h : db.SetsAscend) :
    db.findLoops = ((db.cardSets.map (·.id)).filter db.startsLoop).map db.loopNames := by
  have hids : db.cardSets.map (·.id) = [] ++ db.cardSets.map (·.id) := rfl
  exact h.loopsFrom_eq hids (by simp)

theorem SetsAscend.loopNames_named (h : db.SetsAscend) (hloop : db.onLoop id = true) :
    List.Forall₂ db.Named (db.ancestry id) (db.loopNames id) := by
  rw [loopNames, if_pos hloop, List.forall₂_map_right_iff, List.forall₂_same]
  intro x hx
  exact h.named ((h.isLoop_ancestry hloop).mem_rows hx)

/-! Ways up -/

theorem SetsAscend.transGen_iff (h : db.SetsAscend) :
    Relation.TransGen db.ParentLink x y ↔ ∃ n, db.climb (n + 1) x = some y := by
  constructor
  · intro hway
    induction hway with
    | single hlink =>
      exact ⟨0, by rw [climb_one, h.parent?_eq_some_iff.mpr hlink]⟩
    | tail _ hlink ih =>
      obtain ⟨n, hn⟩ := ih
      refine ⟨n + 1, ?_⟩
      rw [climb_add, hn, Option.bind_some, climb_one, h.parent?_eq_some_iff.mpr hlink]
  · rintro ⟨n, hn⟩
    induction n generalizing x with
    | zero =>
      rw [climb_one] at hn
      exact .single (h.parent?_eq_some_iff.mp hn)
    | succ n ih =>
      obtain ⟨parent, hparent, hn⟩ := Option.bind_eq_some_iff.mp hn
      exact .head (h.parent?_eq_some_iff.mp hparent) (ih hn)

theorem climb_of_way {way : Nat → CardSetId}
    (hway : ∀ n, db.parent? (way n) = some (way (n + 1))) (m n : Nat) :
    db.climb n (way m) = some (way (m + n)) := by
  induction n with
  | zero => rfl
  | succ n ih => rw [climb_add, ih, Option.bind_some, climb_one, hway, Nat.add_assoc]

/-- Where no set is above itself every way up ends, for there are only so many rows. -/
theorem SetsAscend.acyclic_iff (h : db.SetsAscend) :
    db.Acyclic ↔ ∀ way : Nat → CardSetId, ∃ n, ¬ db.ParentLink (way n) (way (n + 1)) := by
  constructor
  · intro hacyclic way
    by_contra hends
    simp only [not_exists, not_not] at hends
    obtain ⟨i, j, hne, heq⟩ := Finite.exists_ne_map_eq_of_infinite
      fun n => (⟨way n, (hends n).mem⟩ : { x // x ∈ db.cardSets.map (·.id) })
    have hback : ∀ i j, i < j → way i = way j → False := by
      intro i j hlt heq
      obtain ⟨k, rfl⟩ := Nat.exists_eq_add_of_lt hlt
      have hclimb := climb_of_way (fun n => h.parent?_eq_some_iff.mpr (hends n)) i (k + 1)
      exact hacyclic (way i) k (by rw [hclimb, heq, Nat.add_assoc])
    have heq := congrArg Subtype.val heq
    rcases Nat.lt_or_gt_of_ne hne with hlt | hlt
    · exact hback i j hlt heq
    · exact hback j i hlt heq.symm
  · intro hends id n hloop
    -- round and round the loop
    have hon : ∀ x, db.onLoop x = true → ∃ y, db.ParentLink x y ∧ db.onLoop y = true := by
      intro x hx
      obtain ⟨y, hy, hlink⟩ := (h.isLoop_ancestry hx).exists_parent List.mem_cons_self
      exact ⟨y, hlink, (h.ancestry_of_mem hx hy).1⟩
    choose! next hnext using hon
    have hround : ∀ n, db.onLoop (next^[n] id) = true := by
      intro n
      induction n with
      | zero => exact onLoop_iff.mpr ⟨_, hloop⟩
      | succ n ih =>
        rw [Function.iterate_succ_apply']
        exact (hnext _ ih).2
    obtain ⟨m, hm⟩ := hends fun n => next^[n] id
    refine hm ?_
    rw [Function.iterate_succ_apply']
    exact (hnext _ (hround m)).1

/-- What is found of the loops of a database. -/
structure FindsLoops (db : Database) : Prop where
  onLoop_iff : ∀ cs ∈ db.cardSets,
    db.onLoop cs.id = true ↔ Relation.TransGen db.ParentLink cs.id cs.id
  /-- The names are those of the loop, from the set on. -/
  loopNames : ∀ cs ∈ db.cardSets, db.onLoop cs.id = true →
    ∃ rest : List CardSetId, db.IsLoop (cs.id :: rest : List CardSetId) ∧
      List.Forall₂ db.Named (cs.id :: rest) (db.loopNames cs.id)
  loopNames_nil : ∀ cs ∈ db.cardSets, db.onLoop cs.id = false → db.loopNames cs.id = []
  /-- Each loop is listed once, from its smallest number on. -/
  findLoops : ∃ loops : List (List CardSetId),
    List.Forall₂ (List.Forall₂ db.Named) loops db.findLoops ∧
      (∀ c, db.IsLoop c ↔ c ∈ loops.map Cycle.ofList) ∧
      (loops.map Cycle.ofList).Nodup ∧
      ∀ loop ∈ loops, ∀ first ∈ loop.head?, ∀ x ∈ loop, first.val ≤ x.val
  checkForest_ok_iff : db.checkForest = .ok () ↔
    ∀ way : Nat → CardSetId, ∃ n, ¬ db.ParentLink (way n) (way (n + 1))
  /-- A walk of more steps than there are rows finds nothing more. -/
  enough : ∀ cs ∈ db.cardSets, ∀ steps ≥ db.cardSets.length,
    cs.id :: db.ancestorsFrom steps [cs.id] cs.id = db.ancestry cs.id

theorem SetsAscend.isLoop_iff (h : db.SetsAscend) {c : Cycle CardSetId} :
    db.IsLoop c ↔ ∃ s ∈ db.cardSets.map (·.id), db.startsLoop s = true ∧ db.ancestry s = c := by
  constructor
  · intro hloop
    induction c using Cycle.induction_on with
    | nil => exact absurd rfl hloop.nonempty
    | cons first rest _ =>
      obtain ⟨hwalk, hon⟩ := h.ancestry_eq hloop
      obtain ⟨s, hs, hstarts⟩ := h.exists_startsLoop hon
      obtain ⟨_, hsame⟩ := h.ancestry_of_mem hon hs
      exact ⟨s, (h.isLoop_ancestry hon).mem_rows hs, hstarts, by rw [hsame, hwalk]⟩
  · rintro ⟨s, _, hstarts, rfl⟩
    exact h.isLoop_ancestry (startsLoop_iff.mp hstarts).1

/-- Whatever parents the rows have, the search answers for all loops and for nothing else. -/
theorem SetsAscend.findsLoops (h : db.SetsAscend) : db.FindsLoops where
  onLoop_iff cs _ := by rw [Database.onLoop_iff, h.transGen_iff]
  loopNames cs _ hloop := ⟨_, h.isLoop_ancestry hloop, h.loopNames_named hloop⟩
  loopNames_nil cs _ hloop := by simp [Database.loopNames, hloop]
  findLoops := by
    refine ⟨((db.cardSets.map (·.id)).filter db.startsLoop).map db.ancestry, ?_, ?_, ?_, ?_⟩
    · rw [h.findLoops_eq, List.forall₂_map_left_iff, List.forall₂_map_right_iff,
        List.forall₂_same]
      intro s hs
      exact h.loopNames_named (startsLoop_iff.mp (List.mem_filter.mp hs).2).1
    · intro c
      rw [h.isLoop_iff, List.map_map]
      simp only [List.mem_map (l := List.filter _ _), List.mem_filter, Function.comp_apply, and_assoc]
    · rw [List.map_map]
      refine List.Nodup.map_on ?_ (List.Nodup.filter _ ?_)
      · intro x hx y hy heq
        have hmem : y ∈ (db.ancestry x : Cycle CardSetId) := by
          rw [show (db.ancestry x : Cycle CardSetId) = db.ancestry y from heq, Cycle.mem_coe_iff]
          exact List.mem_cons_self
        exact h.startsLoop_unique (List.mem_filter.mp hx).2 (List.mem_filter.mp hy).2
          (Cycle.mem_coe_iff.mp hmem)
      · exact h.nodup_ids
    · intro loop hloop first hfirst
      obtain ⟨s, hs, rfl⟩ := List.mem_map.mp hloop
      obtain rfl : s = first := Option.some.inj hfirst
      exact (startsLoop_iff.mp (List.mem_filter.mp hs).2).2
  checkForest_ok_iff := checkForest_eq_ok_iff.trans h.acyclic_iff
  enough cs _ steps hsteps := by
    obtain ⟨more, rfl⟩ := Nat.exists_eq_add_of_le hsteps
    rw [ancestorsFrom_stable more (by simp) (List.nodup_singleton _) (by simp), ancestry]

/-- Two loops, a set that is its own parent, one below a loop, and one whose parent is missing. -/
def tangle : Database :=
  let row (id : Nat) (name : String) (parent : Nat) : CardSet :=
    { id := ⟨id⟩, name, author := "", comment := "", annotations := "", inUse := false,
      parent := some ⟨parent⟩ }
  { empty with
    cardSets := [row 0 "A" 4, row 1 "B" 0, row 2 "X" 2, row 4 "C" 1, row 5 "Below" 4,
      row 7 "Lost" 9, row 8 "Y" 11, row 11 "Z" 8]
    nextCardSetId := 12 }

theorem setsAscend_tangle : tangle.SetsAscend := by
  unfold SetsAscend
  decide

theorem findsLoops_tangle : tangle.SetsAscend ∧ tangle.FindsLoops ∧
    tangle.findLoops = [["A", "C", "B"], ["X"], ["Y", "Z"]] :=
  ⟨setsAscend_tangle, setsAscend_tangle.findsLoops, by decide⟩

end CardBinder.Database
