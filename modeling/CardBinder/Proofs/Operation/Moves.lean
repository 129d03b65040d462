import CardBinder.Operation.Moves
import CardBinder.Proofs.Database.Succession
import CardBinder.Proofs.Forest.Parents

/-! Sets under another parent: they close a loop exactly when that parent was one of them or below one. -/

namespace CardBinder.Database
variable {db : Database} {id set source x y : CardSetId} {sets order : List CardSetId}
  {parent : Option CardSetId}

theorem link_before (hlink : (db.withParent sets parent).ParentLink x y) (hx : x ∉ sets) :
    db.ParentLink x y :=
  ((parentLink_withParent.mp hlink).resolve_left fun h => hx h.1).2

theorem exists_loop_withParent_iff (hsets : ∀ x ∈ sets, x ∈ db.cardSets.map (·.id))
    (parent : Option CardSetId) :
    (∃ x ∈ sets, Relation.TransGen (db.withParent sets parent).ParentLink x x) ↔
      ∃ p ∈ parent, ∃ x ∈ sets, Relation.ReflTransGen db.ParentLink p x := by
  constructor
  · rintro ⟨x, hx, hloop⟩
    obtain ⟨p, hfirst, hway⟩ := Relation.TransGen.head'_iff.mp hloop
    rcases parentLink_withParent.mp hfirst with ⟨_, _, hp⟩ | ⟨hnot, _⟩
    · obtain ⟨n, hn, hbefore⟩ :=
        exists_reached (f := id) (P := (· ∈ sets)) (fun _ _ => link_before) hway hx
      exact ⟨p, hp, n, hn, hbefore⟩
    · exact absurd hx hnot
  · rintro ⟨p, hp, x, hx, hway⟩
    obtain ⟨n, hn, hafter⟩ := exists_reached (r := (db.withParent sets parent).ParentLink)
      (f := id) (P := (· ∈ sets))
      (fun _ _ hlink hout => parentLink_withParent.mpr (.inr ⟨hout, hlink⟩)) hway hx
    exact ⟨n, hn, .head' (parentLink_withParent.mpr (.inl ⟨hn, hsets n hn, hp⟩)) hafter⟩

theorem SetsAscend.onLoop_withParent_iff (h : db.SetsAscend)
    (hset : set ∈ db.cardSets.map (·.id)) (parent : Option CardSetId) :
    (db.withParent [set] parent).onLoop set = true ↔
      ∃ p ∈ parent, Relation.ReflTransGen db.ParentLink p set := by
  have hone : ∀ x ∈ [set], x ∈ db.cardSets.map (·.id) := by simpa using hset
  have hloop := exists_loop_withParent_iff hone parent
  simp only [List.mem_singleton, exists_eq_left] at hloop
  rw [(h.withParent [set] parent).onLoop_iff_transGen, hloop]

/-- In a tree, any loop that comes up goes through one of the sets that were moved. -/
theorem SetsAscend.acyclic_withParent_iff (h : db.SetsAscend) (hacyclic : db.Acyclic)
    (hsets : ∀ x ∈ sets, x ∈ db.cardSets.map (·.id)) (parent : Option CardSetId) :
    (db.withParent sets parent).Acyclic ↔
      ∀ p ∈ parent, ∀ x ∈ sets, ¬ Relation.ReflTransGen db.ParentLink p x := by
  have hloops := exists_loop_withParent_iff hsets parent
  rw [(h.withParent sets parent).acyclic_iff_transGen]
  constructor
  · intro hnone p hp x hx hway
    obtain ⟨n, _, hloop⟩ := hloops.mpr ⟨p, hp, x, hx, hway⟩
    exact hnone n hloop
  · intro hnone x hloop
    rcases transGen_or_through (f := id) (P := (· ∈ sets)) (fun _ _ => link_before) hloop with
      hbefore | ⟨n, hn, hto, hfrom⟩
    · exact h.acyclic_iff_transGen.mp hacyclic x hbefore
    · obtain ⟨p, hp, m, hm, hway⟩ := hloops.mp ⟨n, hn, hfrom.trans_left hto⟩
      exact hnone p hp m hm hway

/-- A parent is at or below a child of a set exactly when it is below that set. -/
theorem SetsAscend.exists_children_iff (h : db.SetsAscend) {p : CardSetId} :
    (∃ x ∈ db.children source, Relation.ReflTransGen db.ParentLink p x) ↔
      Relation.TransGen db.ParentLink p source := by
  have hlink : ∀ x, x ∈ db.children source ↔ db.ParentLink x source := by
    intro x
    constructor
    · intro hx
      obtain ⟨cs, hcs, rfl⟩ := List.mem_map.mp hx
      have hmem := List.mem_of_mem_filter hcs
      exact ⟨cs, hmem, rfl, (h.mem_children_iff hmem).mp hx⟩
    · rintro ⟨cs, hcs, rfl, hparent⟩
      exact (h.mem_children_iff hcs).mpr hparent
  rw [Relation.TransGen.tail'_iff]
  simp only [hlink, and_comm]

/-! Loops that a move would close -/

theorem SetsAscend.cardSetName_inj (h : db.SetsAscend) (hnames : (db.cardSets.map (·.name)).Nodup)
    (hx : x ∈ db.cardSets.map (·.id)) (hy : y ∈ db.cardSets.map (·.id))
    (heq : db.cardSetName x = db.cardSetName y) : x = y := by
  obtain ⟨a, ha, rfl⟩ := List.mem_map.mp hx
  obtain ⟨b, hb, rfl⟩ := List.mem_map.mp hy
  rw [h.cardSetName ha, h.cardSetName hb] at heq
  rw [List.inj_on_of_nodup_map hnames ha hb heq]

/-- The names from a set over its new parent and the sets above that one, up to the set below the first. -/
structure ClosingChain (db : Database) (set parent : CardSetId) (chain : List String) : Prop where
  way : ∃ way : List CardSetId, (way ++ [set]).head? = some parent ∧
    (way ++ [set]).IsChain db.ParentLink ∧ List.Forall₂ db.Named (set :: way) chain
  once : chain.Nodup

theorem SetsAscend.closingChain_loopNames (h : db.SetsAscend)
    (hnames : (db.cardSets.map (·.name)).Nodup)
    (hloop : (db.withParent [set] parent).onLoop set = true) :
    ∃ p ∈ parent, db.ClosingChain set p ((db.withParent [set] parent).loopNames set) := by
  have hmoved := h.withParent [set] parent
  obtain ⟨rest, hwalk⟩ : ∃ rest, (db.withParent [set] parent).ancestry set = set :: rest := ⟨_, rfl⟩
  have hon := hmoved.isLoop_ancestry hloop
  have hnamed := hmoved.loopNames_named hloop
  rw [hwalk] at hon hnamed
  obtain ⟨hnodup, hchain⟩ := isLoop_coe_cons.mp hon
  obtain ⟨hfirst, hrest⟩ := List.isChain_cons.mp hchain
  obtain ⟨p, hhead⟩ : ∃ p, (rest ++ [set]).head? = some p :=
    Option.isSome_iff_exists.mp (by simp)
  have hp : p ∈ parent := by
    rcases parentLink_withParent.mp (hfirst p hhead) with ⟨_, _, hp⟩ | ⟨hnot, _⟩
    · exact hp
    · exact absurd (List.mem_singleton_self set) hnot
  refine ⟨p, hp, ⟨rest, hhead, ?_, hnamed.imp fun _ _ => named_withParent.mp⟩, ?_⟩
  · have hout : ∀ x ∈ rest, x ∉ [set] := by
      rintro x hx hmem
      exact (List.nodup_cons.mp hnodup).1 (List.mem_singleton.mp hmem ▸ hx)
    exact (isChain_and hrest hout).imp fun _ _ hlink => link_before hlink.1 hlink.2
  · rw [loopNames, if_pos hloop, hwalk]
    refine List.Nodup.map_on ?_ hnodup
    intro x hx y hy heq
    have hkept : (db.withParent [set] parent).cardSets.map (·.name) = db.cardSets.map (·.name) :=
      withParent_map (fun _ => rfl) db [set]
    exact hmoved.cardSetName_inj (hkept ▸ hnames) (hon.mem_rows hx) (hon.mem_rows hy) heq

/-! The moves themselves -/

theorem getCardSet_missing (hid : id ∉ db.cardSets.map (·.id)) :
    db.getCardSet id = .error (.setNotFound ("#" ++ toString id)) := by
  cases hget : db.getCardSet id with
  | ok cs => exact absurd (List.mem_map.mpr ⟨cs, getCardSet_ok hget⟩) hid
  | error failure => rw [(getCardSet_error hget).2]

theorem SetsAscend.exists_getCardSet (h : db.SetsAscend) (hid : id ∈ db.cardSets.map (·.id)) :
    ∃ cs ∈ db.cardSets, cs.id = id ∧ db.getCardSet id = .ok cs := by
  obtain ⟨cs, hcs, rfl⟩ := List.mem_map.mp hid
  exact ⟨cs, hcs, rfl, h.getCardSet hcs⟩

/-- The parent is looked for before the set. -/
theorem SetsAscend.moveSet_missing (h : db.SetsAscend)
    (hmissing : set ∉ db.cardSets.map (·.id) ∨ ∃ p ∈ parent, p ∉ db.cardSets.map (·.id)) :
    ∃ id : CardSetId, db.moveSet set parent = .error (.setNotFound ("#" ++ toString id)) := by
  cases parent with
  | none =>
    have hset : set ∉ db.cardSets.map (·.id) := by simpa using hmissing
    refine ⟨set, ?_⟩
    simp only [moveSet, getCardSet_missing hset, bind, Except.bind]
  | some p =>
    by_cases hp : p ∈ db.cardSets.map (·.id)
    · have hset : set ∉ db.cardSets.map (·.id) := hmissing.resolve_right (by simpa using hp)
      obtain ⟨row, _, _, hrow⟩ := h.exists_getCardSet hp
      refine ⟨set, ?_⟩
      simp only [moveSet, hrow, getCardSet_missing hset, bind, Except.bind]
    · refine ⟨p, ?_⟩
      simp only [moveSet, getCardSet_missing hp, bind, Except.bind]

theorem SetsAscend.moveSet_eq (h : db.SetsAscend) (hset : set ∈ db.cardSets.map (·.id))
    (hparent : ∀ p ∈ parent, p ∈ db.cardSets.map (·.id)) :
    db.moveSet set parent =
      if (db.withParent [set] parent).onLoop set then
        .error (.loopIntroduced (db.cardSetName set) (db.nameOrBlank parent)
          ((db.withParent [set] parent).loopNames set))
      else .ok (db.withParent [set] parent) := by
  obtain ⟨cs, _, _, hcs⟩ := h.exists_getCardSet hset
  have hname : (db.withParent [set] parent).nameOrBlank parent = db.nameOrBlank parent := by
    cases parent with
    | none => rfl
    | some p => exact h.cardSetName_withParent (hparent p rfl)
  have hnamed : (db.withParent [set] parent).cardSetName set = db.cardSetName set :=
    h.cardSetName_withParent hset
  rw [← hname, ← hnamed]
  cases parent with
  | none =>
    simp only [moveSet, hcs, h.setParent_eq, bind, Except.bind]
    rfl
  | some p =>
    obtain ⟨row, _, _, hrow⟩ := h.exists_getCardSet (hparent p rfl)
    simp only [moveSet, hrow, hcs, h.setParent_eq, bind, Except.bind]
    rfl

theorem SetsAscend.destination_withParent (h : db.SetsAscend) (sets : List CardSetId)
    (hparent : ∀ p ∈ parent, p ∈ db.cardSets.map (·.id)) :
    (db.withParent sets parent).destination parent = db.destination parent := by
  cases parent with
  | none => rfl
  | some p => rw [destination, destination, h.cardSetName_withParent (hparent p rfl)]

/-- Moving sets one after the other moves them all, unless the whole move would close a loop. -/
theorem SetsAscend.moveSets_cases (h : db.SetsAscend) (hacyclic : db.Acyclic)
    (hsets : ∀ x ∈ sets, x ∈ db.cardSets.map (·.id))
    (hparent : ∀ p ∈ parent, p ∈ db.cardSets.map (·.id)) :
    (db.withParent sets parent).Acyclic ∧
        db.moveSets sets parent = .ok (db.withParent sets parent) ∨
      ¬ (db.withParent sets parent).Acyclic ∧ ∃ name parentName chain,
        db.moveSets sets parent = .error (.loopIntroduced name parentName chain) := by
  induction sets generalizing db with
  | nil => exact .inl ⟨by rwa [withParent_nil], by rw [withParent_nil]; rfl⟩
  | cons set sets ih =>
    obtain ⟨hset, hrest⟩ := List.forall_mem_cons.mp hsets
    have hone := h.onLoop_withParent_iff hset parent
    rw [moveSets, List.foldlM_cons, h.moveSet_eq hset hparent]
    split
    · rename_i hloop
      obtain ⟨p, hp, hway⟩ := hone.mp hloop
      refine .inr ⟨fun hall => ?_, _, _, _, rfl⟩
      exact (h.acyclic_withParent_iff hacyclic hsets parent).mp hall p hp set List.mem_cons_self hway
    · rename_i hnone
      -- the sets that are left move in a tree again
      have hacyclic' : (db.withParent [set] parent).Acyclic := by
        refine (h.acyclic_withParent_iff hacyclic (by simpa using hset) parent).mpr ?_
        intro p hp x hx hway
        exact hnone (hone.mpr ⟨p, hp, List.mem_singleton.mp hx ▸ hway⟩)
      have hleft := ih (h.withParent [set] parent) hacyclic'
        (fun x hx => withParent_ids db [set] parent ▸ hrest x hx)
        fun p hp => withParent_ids db [set] parent ▸ hparent p hp
      rw [withParent_withParent] at hleft
      exact hleft

/-- In whatever order the sets are moved, all is well or not, and comes to the same. -/
theorem SetsAscend.moveSets_perm (h : db.SetsAscend) (hacyclic : db.Acyclic)
    (hsets : ∀ x ∈ sets, x ∈ db.cardSets.map (·.id))
    (hparent : ∀ p ∈ parent, p ∈ db.cardSets.map (·.id)) (hperm : order.Perm sets) :
    (db.moveSets order parent).toOption = (db.moveSets sets parent).toOption := by
  have hsame : db.withParent order parent = db.withParent sets parent :=
    withParent_congr fun _ => hperm.mem_iff
  have horder := h.moveSets_cases hacyclic (fun x hx => hsets x (hperm.mem_iff.mp hx)) hparent
  rw [hsame] at horder
  rcases horder with ⟨hall, heq⟩ | ⟨hloop, _, _, _, heq⟩ <;>
    rcases h.moveSets_cases hacyclic hsets hparent with ⟨hall', heq'⟩ | ⟨hloop', _, _, _, heq'⟩
  · rw [heq, heq']
  · exact absurd hall hloop'
  · exact absurd hall' hloop
  · rw [heq, heq']
    rfl

/-- Moving the children of a set changes the rows that have it as their parent. -/
theorem SetsAscend.withParent_children (h : db.SetsAscend) :
    db.withParent (db.children source) parent = { db with
      cardSets := db.cardSets.map fun cs =>
        if cs.parent = some source then { cs with parent } else cs } := by
  refine congrArg (fun rows => { db with cardSets := rows }) (List.map_congr_left fun cs hcs => ?_)
  simp only [List.contains_iff_mem, h.mem_children_iff hcs]

theorem SetsAscend.moveChildren_ok (h : db.SetsAscend) (hsource : source ∈ db.cardSets.map (·.id))
    (hmoves : db.moveSets (db.children source) parent =
      .ok (db.withParent (db.children source) parent)) :
    db.moveChildren source parent = .ok (db.withParent (db.children source) parent,
      (db.cardSets.filter (·.parent == some source)).map ({ · with parent })) := by
  obtain ⟨_, _, _, hrow⟩ := h.exists_getCardSet hsource
  have hrows : (db.children source).mapM (db.withParent (db.children source) parent).getCardSet =
      .ok ((db.cardSets.filter (·.parent == some source)).map ({ · with parent })) := by
    rw [Outcome.mapM_ok_iff, children, List.forall₂_map_left_iff, List.forall₂_map_right_iff,
      List.forall₂_same]
    intro cs hcs
    have hmoved : { cs with parent } ∈ (db.withParent (db.children source) parent).cardSets := by
      refine mem_withParent.mpr ⟨cs, List.mem_of_mem_filter hcs, if_pos ?_⟩
      exact List.mem_map_of_mem hcs
    exact (h.withParent _ parent).getCardSet hmoved
  rw [moveChildren, hrow]
  simp only [bind, Except.bind, hmoves, hrows]
  rfl

theorem SetsAscend.moveChildren_error (h : db.SetsAscend)
    (hsource : source ∈ db.cardSets.map (·.id)) {failure : Failure}
    (hmoves : db.moveSets (db.children source) parent = .error failure) :
    db.moveChildren source parent = .error failure := by
  obtain ⟨_, _, _, hrow⟩ := h.exists_getCardSet hsource
  rw [moveChildren, hrow]
  simp only [bind, Except.bind, hmoves]

/-- What has been moved without a loop passes the check before saving. -/
theorem Valid.validate_withParent (hv : db.Valid)
    (hparent : ∀ p ∈ parent, p ∈ db.cardSets.map (·.id))
    (hacyclic : (db.withParent sets parent).Acyclic) :
    (db.withParent sets parent).validate = .ok () := by
  obtain ⟨next, hs⟩ := exists_inOrder (hv.setsAscend.withParent sets parent)
  have hthere : ∀ {id}, (∃ cs ∈ db.cardSets, cs.id = id) →
      ∃ cs ∈ (db.withParent sets parent).cardSets, cs.id = id :=
    exists_set_of_ids (withParent_ids db sets parent)
  refine Referential.validate ⟨?_, hacyclic, ?_, hv.copyPrintings⟩ hs
  · intro row hrow p hp
    obtain ⟨cs, hcs, rfl⟩ := mem_withParent.mp hrow
    split at hp
    · exact hthere (List.mem_map.mp (hparent p hp))
    · exact hthere (hv.parents cs hcs p hp)
  · intro c hc
    exact hthere (hv.copySets c hc)

end CardBinder.Database
