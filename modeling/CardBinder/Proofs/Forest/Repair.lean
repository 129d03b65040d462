import CardBinder.Proofs.Forest.Detection
import CardBinder.Proofs.Forest.Parents

/-! Breaking the loops takes out one parent for each of them, and changes nothing else. -/

namespace CardBinder.Database
variable {db : Database} {id x y : CardSetId} {cut ids done : List CardSetId}

/-- The database without the parents of some sets. -/
def clearParents (db : Database) (cut : List CardSetId) : Database :=
  { db with cardSets := db.cardSets.map fun cs =>
      if cs.id ∈ cut then { cs with parent := none } else cs }

theorem clearParents_eq (db : Database) (cut : List CardSetId) :
    db.clearParents cut = db.withParent cut none := by
  simp only [clearParents, withParent, List.contains_iff_mem]

theorem SetsAscend.clearParents (h : db.SetsAscend) (cut : List CardSetId) :
    (db.clearParents cut).SetsAscend :=
  clearParents_eq db cut ▸ h.withParent cut none

theorem parentLink_clearParents :
    (db.clearParents cut).ParentLink x y ↔ db.ParentLink x y ∧ x ∉ cut := by
  rw [clearParents_eq, parentLink_withParent, and_comm (b := x ∉ cut)]
  simp

/-- The loops that are left are those from which no parent was taken. -/
theorem isLoop_clearParents :
    (db.clearParents cut).IsLoop ids ↔ db.IsLoop ids ∧ ∀ x ∈ ids, x ∉ cut := by
  constructor
  · intro hloop
    refine ⟨⟨hloop.nonempty, hloop.once, ?_⟩, ?_⟩
    · exact Cycle.Chain.imp (fun a b hlink => (parentLink_clearParents.mp hlink).1) hloop.linked
    · intro x hx
      obtain ⟨_, _, hlink⟩ := hloop.exists_parent hx
      exact (parentLink_clearParents.mp hlink).2
  · rintro ⟨hloop, hcut⟩
    cases ids with
    | nil => exact absurd rfl hloop.nonempty
    | cons first rest =>
      obtain ⟨hnodup, hchain⟩ := isLoop_coe_cons.mp hloop
      refine isLoop_coe_cons.mpr ⟨hnodup, (isChain_and hchain hcut).imp ?_⟩
      intro a b hlink
      exact parentLink_clearParents.mpr hlink

theorem SetsAscend.onLoop_clearParents (h : db.SetsAscend) :
    (db.clearParents cut).onLoop id = true ↔
      db.onLoop id = true ∧ ∀ x ∈ db.ancestry id, x ∉ cut := by
  constructor
  · intro hloop
    obtain ⟨hold, hcut⟩ := isLoop_clearParents.mp ((h.clearParents cut).isLoop_ancestry hloop)
    have hwalk : db.ancestry id = (db.clearParents cut).ancestry id := (h.ancestry_eq hold).1
    exact ⟨(h.ancestry_eq hold).2, by rwa [hwalk]⟩
  · rintro ⟨hloop, hcut⟩
    have hleft := isLoop_clearParents.mpr ⟨h.isLoop_ancestry hloop, hcut⟩
    exact ((h.clearParents cut).ancestry_eq hleft).2

theorem SetsAscend.ancestry_clearParents (h : db.SetsAscend)
    (hloop : (db.clearParents cut).onLoop id = true) :
    (db.clearParents cut).ancestry id = db.ancestry id := by
  obtain ⟨hold, _⟩ := isLoop_clearParents.mp ((h.clearParents cut).isLoop_ancestry hloop)
  exact (h.ancestry_eq hold).1.symm

theorem SetsAscend.cardSetName_clearParents (h : db.SetsAscend)
    (hid : id ∈ db.cardSets.map (·.id)) :
    (db.clearParents cut).cardSetName id = db.cardSetName id :=
  clearParents_eq db cut ▸ h.cardSetName_withParent hid

theorem SetsAscend.loopNames_clearParents (h : db.SetsAscend)
    (hloop : (db.clearParents cut).onLoop id = true) :
    (db.clearParents cut).loopNames id = db.loopNames id := by
  obtain ⟨hold, _⟩ := h.onLoop_clearParents.mp hloop
  rw [loopNames, loopNames, if_pos hloop, if_pos hold, h.ancestry_clearParents hloop]
  refine List.map_congr_left fun x hx => ?_
  exact h.cardSetName_clearParents ((h.isLoop_ancestry hold).mem_rows hx)

theorem clearParents_clearParents (db : Database) (cut more : List CardSetId) :
    (db.clearParents cut).clearParents more = db.clearParents (cut ++ more) := by
  simp only [clearParents_eq, withParent_withParent]

/-! Breaking one loop after the other -/

/-- The last set on the walk up from a set; on a loop it is the one whose parent is that set. -/
def closing (db : Database) (id : CardSetId) : CardSetId :=
  (db.ancestry id).getLast (List.cons_ne_nil _ _)

theorem closing_mem (db : Database) (id : CardSetId) : db.closing id ∈ db.ancestry id :=
  List.getLast_mem _

theorem getLast?_ancestry (db : Database) (id : CardSetId) :
    (db.ancestry id).getLast? = some (db.closing id) :=
  List.getLast?_eq_some_getLast _

theorem parent?_closing (hloop : db.onLoop id = true) : db.parent? (db.closing id) = some id := by
  rwa [onLoop, beq_iff_eq, revisited?, getLast?_ancestry, Option.bind_some] at hloop

/-- How a loop is broken that is met at a set. -/
def repairAt (db : Database) (id : CardSetId) : LoopRepair :=
  ⟨db.loopNames id, db.cardSetName (db.closing id)⟩

theorem SetsAscend.breakLoop_eq (h : db.SetsAscend) (hloop : db.onLoop id = true) :
    db.breakLoop id =
      some (db.clearParents [db.closing id], db.cardSetName (db.closing id)) := by
  obtain ⟨cs, hcs, hid⟩ :=
    List.mem_map.mp ((h.isLoop_ancestry hloop).mem_rows (closing_mem db id))
  have hrow := h.cardSet?_eq_some_iff.mpr ⟨hcs, hid⟩
  have hagain : db.revisited? id = some id := beq_iff_eq.mp hloop
  rw [breakLoop, hagain, getLast?_ancestry, ← hid, h.cardSetName hcs, hid]
  simp only [Option.bind_eq_bind, Option.bind_some, hrow, h.setParent_eq, clearParents_eq]
  rfl

/-- Once the loops that start before a set are broken, it is on a loop when it starts one itself. -/
theorem SetsAscend.onLoop_iff_startsLoop (h : db.SetsAscend)
    (hids : db.cardSets.map (·.id) = done ++ id :: ids) :
    (db.clearParents ((done.filter db.startsLoop).map db.closing)).onLoop id = true ↔
      db.startsLoop id = true := by
  have hpairs := setsAscend_iff.mp h
  rw [hids] at hpairs
  obtain ⟨_, hafter, hbefore⟩ := List.pairwise_append.mp hpairs
  rw [h.onLoop_clearParents]
  constructor
  · rintro ⟨hloop, hcut⟩
    obtain ⟨s, hs, hstarts⟩ := h.exists_startsLoop hloop
    obtain ⟨hon, hleast⟩ := startsLoop_iff.mp hstarts
    have hle := hleast id (h.mem_ancestry_symm hloop hs)
    have hrow := (h.isLoop_ancestry hloop).mem_rows hs
    rw [hids] at hrow
    rcases List.mem_append.mp hrow with hdone | hrow
    · -- the loop would have been broken
      obtain ⟨_, hsame⟩ := h.ancestry_of_mem hloop hs
      have hmem : db.closing s ∈ db.ancestry id := by
        rw [← Cycle.mem_coe_iff, ← hsame, Cycle.mem_coe_iff]
        exact closing_mem db s
      exact absurd (List.mem_map_of_mem (List.mem_filter.mpr ⟨hdone, hstarts⟩)) (hcut _ hmem)
    · rcases List.mem_cons.mp hrow with rfl | hrow
      · exact hstarts
      · have := (List.pairwise_cons.mp hafter).1 s hrow
        omega
  · intro hstarts
    have hloop := (startsLoop_iff.mp hstarts).1
    refine ⟨hloop, fun x hx hcut => ?_⟩
    obtain ⟨s, hs, rfl⟩ := List.mem_map.mp hcut
    obtain ⟨hdone, hstarts'⟩ := List.mem_filter.mp hs
    -- both would start the loop of the set that lost its parent
    obtain ⟨_, hsame⟩ := h.ancestry_of_mem hloop hx
    obtain ⟨_, hsame'⟩ := h.ancestry_of_mem (startsLoop_iff.mp hstarts').1 (closing_mem db s)
    have hmem : s ∈ db.ancestry id := by
      rw [← Cycle.mem_coe_iff, ← hsame, hsame', Cycle.mem_coe_iff]
      exact List.mem_cons_self
    have hlt := hbefore s hdone id List.mem_cons_self
    rw [h.startsLoop_unique hstarts hstarts' hmem] at hlt
    exact Nat.lt_irrefl _ hlt

/-- What a pass over the rows does: it breaks each loop where it comes to it first. -/
theorem SetsAscend.breakLoopsFrom_eq (h : db.SetsAscend)
    (hids : db.cardSets.map (·.id) = done ++ ids) :
    (db.clearParents ((done.filter db.startsLoop).map db.closing)).breakLoopsFrom ids =
      (db.clearParents (((done ++ ids).filter db.startsLoop).map db.closing),
        (ids.filter db.startsLoop).map db.repairAt) := by
  induction ids generalizing done with
  | nil => simp [breakLoopsFrom]
  | cons id ids ih =>
    have hmeets := h.onLoop_iff_startsLoop hids
    have hids' : db.cardSets.map (·.id) = (done ++ [id]) ++ ids := by simpa using hids
    have hrest := ih hids'
    rw [List.append_assoc, List.singleton_append] at hrest
    rw [breakLoopsFrom]
    split
    · rename_i hoff
      have hnot : ¬ db.startsLoop id = true := by
        rw [← hmeets]
        simpa using hoff
      rw [List.filter_append, List.filter_cons_of_neg hnot, List.filter_nil, List.append_nil] at hrest
      rw [hrest, List.filter_cons_of_neg hnot]
    · rename_i hon
      have hon : (db.clearParents ((done.filter db.startsLoop).map db.closing)).onLoop id = true := by
        simpa using hon
      have hstarts := hmeets.mp hon
      have hclosing : (db.clearParents ((done.filter db.startsLoop).map db.closing)).closing id =
          db.closing id := by
        simp only [closing, h.ancestry_clearParents hon]
      have hrow := (h.isLoop_ancestry (startsLoop_iff.mp hstarts).1).mem_rows (closing_mem db id)
      rw [List.filter_append, List.filter_cons_of_pos hstarts, List.filter_nil, List.map_append,
        List.map_singleton, ← clearParents_clearParents] at hrest
      rw [(h.clearParents _).breakLoop_eq hon, hclosing, h.cardSetName_clearParents hrow]
      simp only [hrest, h.loopNames_clearParents hon, List.filter_cons_of_pos hstarts,
        List.map_cons, repairAt]

/-- The sets whose parents are taken away: one of each loop. -/
def cuts (db : Database) : List CardSetId :=
  ((db.cardSets.map (·.id)).filter db.startsLoop).map db.closing

theorem SetsAscend.breakLoops_eq (h : db.SetsAscend) :
    db.breakLoops = (db.clearParents db.cuts,
      ((db.cardSets.map (·.id)).filter db.startsLoop).map db.repairAt) := by
  have hids : db.cardSets.map (·.id) = [] ++ db.cardSets.map (·.id) := rfl
  have hpass := h.breakLoopsFrom_eq hids
  rwa [List.filter_nil, List.map_nil, clearParents_eq db [], withParent_nil, List.nil_append] at hpass

theorem SetsAscend.not_onLoop_clearParents_cuts (h : db.SetsAscend) (id : CardSetId) :
    (db.clearParents db.cuts).onLoop id = false := by
  rw [← Bool.not_eq_true, h.onLoop_clearParents]
  rintro ⟨hloop, hcut⟩
  obtain ⟨s, hs, hstarts⟩ := h.exists_startsLoop hloop
  obtain ⟨_, hsame⟩ := h.ancestry_of_mem hloop hs
  refine hcut (db.closing s) ?_ (List.mem_map_of_mem (List.mem_filter.mpr ⟨?_, hstarts⟩))
  · rw [← Cycle.mem_coe_iff, ← hsame, Cycle.mem_coe_iff]
    exact closing_mem db s
  · exact (h.isLoop_ancestry hloop).mem_rows hs

/-- Where there are no loops there is nothing to break. -/
theorem breakLoopsFrom_of_not_onLoop (h : ∀ id, db.onLoop id = false) (ids : List CardSetId) :
    db.breakLoopsFrom ids = (db, []) := by
  induction ids with
  | nil => rfl
  | cons id ids ih =>
    rw [breakLoopsFrom, h id]
    exact ih

theorem SetsAscend.name_mem_map_iff (h : db.SetsAscend)
    (hnames : (db.cardSets.map (·.name)).Nodup) {cs : CardSet} (hcs : cs ∈ db.cardSets)
    (hcut : cut ⊆ db.cardSets.map (·.id)) :
    cs.name ∈ cut.map db.cardSetName ↔ cs.id ∈ cut := by
  constructor
  · intro hmem
    obtain ⟨x, hx, hname⟩ := List.mem_map.mp hmem
    obtain ⟨row, hrow, rfl⟩ := List.mem_map.mp (hcut hx)
    rw [h.cardSetName hrow] at hname
    rwa [← List.inj_on_of_nodup_map hnames hrow hcs hname]
  · intro hmem
    rw [← h.cardSetName hcs]
    exact List.mem_map_of_mem hmem

/-- What it is to break the loops of a database, and no more. -/
structure RepairsLoops (db db' : Database) (repairs : List LoopRepair) : Prop where
  chains : repairs.map (·.chain) = db.findLoops
  brokenAt : ∀ r ∈ repairs, r.chain.getLast? = some r.brokenAt
  /-- The parent that is taken away is the first set of the chain. -/
  closes : ∀ r ∈ repairs, ∃ last ∈ db.cardSets, ∃ first ∈ db.cardSets,
    last.name = r.brokenAt ∧ r.chain.head? = some first.name ∧ last.parent = some first.id
  rest : db' = { db with cardSets := db.cardSets.map fun cs =>
    if cs.name ∈ repairs.map (·.brokenAt) then { cs with parent := none } else cs }
  forest : db'.checkForest = .ok ()
  again : db'.breakLoops = (db', [])

theorem SetsAscend.repairsLoops (h : db.SetsAscend)
    (hnames : (db.cardSets.map (·.name)).Nodup) :
    db.RepairsLoops db.breakLoops.1 db.breakLoops.2 := by
  have hmeets : ∀ r ∈ ((db.cardSets.map (·.id)).filter db.startsLoop).map db.repairAt,
      ∃ s, db.onLoop s = true ∧ r = db.repairAt s := by
    intro r hr
    obtain ⟨s, hs, rfl⟩ := List.mem_map.mp hr
    exact ⟨s, (startsLoop_iff.mp (List.mem_filter.mp hs).2).1, rfl⟩
  have hcuts : db.cuts ⊆ db.cardSets.map (·.id) := by
    intro x hx
    obtain ⟨s, hs, rfl⟩ := List.mem_map.mp hx
    exact (h.isLoop_ancestry (startsLoop_iff.mp (List.mem_filter.mp hs).2).1).mem_rows
      (closing_mem db s)
  rw [h.breakLoops_eq]
  refine ⟨?_, ?_, ?_, ?_, ?_, ?_⟩
  · rw [h.findLoops_eq, List.map_map]
    rfl
  · intro r hr
    obtain ⟨s, hloop, rfl⟩ := hmeets r hr
    rw [repairAt, loopNames, if_pos hloop, List.getLast?_map, getLast?_ancestry, Option.map_some]
  · intro r hr
    obtain ⟨s, hloop, rfl⟩ := hmeets r hr
    have hon := h.isLoop_ancestry hloop
    obtain ⟨first, hfirst, rfl⟩ := List.mem_map.mp (hon.mem_rows List.mem_cons_self)
    obtain ⟨last, hlast, hid, hparent⟩ := parent?_some (parent?_closing hloop)
    refine ⟨last, hlast, first, hfirst, ?_, ?_, hparent⟩
    · rw [repairAt, ← hid, h.cardSetName hlast]
    · rw [repairAt, loopNames, if_pos hloop, ancestry, List.map_cons, List.head?_cons,
        h.cardSetName hfirst]
  · refine congrArg (fun rows => { db with cardSets := rows }) (List.map_congr_left fun cs hcs => ?_)
    have hnamed := h.name_mem_map_iff hnames hcs hcuts
    rw [cuts, List.map_map] at hnamed
    simp only [List.map_map, cuts, ← hnamed]
    rfl
  · rw [checkForest_eq_ok_iff, acyclic_iff_not_onLoop]
    exact h.not_onLoop_clearParents_cuts
  · exact breakLoopsFrom_of_not_onLoop h.not_onLoop_clearParents_cuts _

theorem repairsLoops_tangle : tangle.SetsAscend ∧ (tangle.cardSets.map (·.name)).Nodup ∧
    tangle.breakLoops.2 = [⟨["A", "C", "B"], "B"⟩, ⟨["X"], "X"⟩, ⟨["Y", "Z"], "Z"⟩] ∧
    tangle.RepairsLoops tangle.breakLoops.1 tangle.breakLoops.2 := by
  have hnames : (tangle.cardSets.map (·.name)).Nodup := by decide
  exact ⟨setsAscend_tangle, hnames, by decide, setsAscend_tangle.repairsLoops hnames⟩

end CardBinder.Database
