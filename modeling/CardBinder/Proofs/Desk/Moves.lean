import CardBinder.Proofs.Operation.Moves
import CardBinder.Proofs.Store

/-! Moves that are saved: done in full, or declined with nothing changed. -/

namespace CardBinder.Work
variable {s : Store} {set source : CardSetId} {parent target : Option CardSetId}

/-- How a move of one set ends. -/
structure Moves (s : Store) (set : CardSetId) (parent : Option CardSetId) (r : Outcome Report)
    (s' : Store) : Prop where
  setNotFound_iff : (∃ name, r = .error (.setNotFound name)) ↔
    set ∉ s.db.cardSets.map (·.id) ∨ ∃ p ∈ parent, p ∉ s.db.cardSets.map (·.id)
  loopIntroduced_iff : (∃ name parentName chain,
      r = .error (.loopIntroduced name parentName chain)) ↔
    set ∈ s.db.cardSets.map (·.id) ∧ ∃ p ∈ parent, p ∈ s.db.cardSets.map (·.id) ∧
      Relation.ReflTransGen s.db.ParentLink p set
  chain : ∀ name parentName chain, r = .error (.loopIntroduced name parentName chain) →
    ∃ p ∈ parent, s.db.Named set name ∧ s.db.Named p parentName ∧ s.db.ClosingChain set p chain
  unchanged : ∀ failure, r = .error failure → s' = s
  moved : set ∈ s.db.cardSets.map (·.id) → (∀ p ∈ parent, p ∈ s.db.cardSets.map (·.id) ∧
      ¬ Relation.ReflTransGen s.db.ParentLink p set) →
    ∃ cs ∈ s.db.cardSets, cs.id = set ∧
      r = .ok ((Report.about [{ cs with parent }]).success
        ("Moved " ++ cs.name ++ " " ++ s.db.destination parent)) ∧
      s' = s.saving (s.db.withParent [set] parent)

/-- How a move of all children of a set ends. -/
structure MovesChildren (s : Store) (source : CardSetId) (target : Option CardSetId)
    (r : Outcome Report) (s' : Store) : Prop where
  loopIntroduced_iff : (∃ name parentName chain,
      r = .error (.loopIntroduced name parentName chain)) ↔
    ∃ t ∈ target, Relation.TransGen s.db.ParentLink t source
  unchanged : ∀ failure, r = .error failure → s' = s
  moved : (∀ t ∈ target, ¬ Relation.TransGen s.db.ParentLink t source) →
    ∃ report, r = .ok report ∧
      s' = s.saving { s.db with
        cardSets := s.db.cardSets.map fun cs =>
          if cs.parent = some source then { cs with parent := target } else cs } ∧
      report.affected =
        (s.db.cardSets.filter (·.parent == some source)).map ({ · with parent := target }) ∧
      report.affected.Pairwise fun a b => a.id.val < b.id.val
  /-- The children might as well be moved in another order. -/
  anyOrder : ∀ order, order.Perm (s.db.children source) →
    (s.db.moveSets order target).toOption = (s.db.moveSets (s.db.children source) target).toOption

/-! One set -/

theorem ends_reparent_declined {failure : Failure} (h : s.db.moveSet set parent = .error failure) :
    Ends (reparent set parent) s fun r s' => r = .error failure ∧ s' = s := by
  have hchange : s.db.moveOne set parent = .error failure := by
    simp only [Database.moveOne, h, bind, Except.bind]
  exact (ends_transaction_of_error (Store.attempt_of_error hchange)).bind_error

theorem ends_reparent_moved (hv : s.db.Valid) (hsave : s.failing = false) {cs : CardSet}
    (hcs : cs ∈ s.db.cardSets) (hparent : ∀ p ∈ parent, p ∈ s.db.cardSets.map (·.id))
    (h : s.db.moveSet cs.id parent = .ok (s.db.withParent [cs.id] parent))
    (hacyclic : (s.db.withParent [cs.id] parent).Acyclic) :
    Ends (reparent cs.id parent) s fun r s' =>
      r = .ok ((Report.about [{ cs with parent }]).success
        ("Moved " ++ cs.name ++ " " ++ s.db.destination parent)) ∧
      s' = s.saving (s.db.withParent [cs.id] parent) := by
  have hrow : { cs with parent } ∈ (s.db.withParent [cs.id] parent).cardSets :=
    Database.mem_withParent.mpr ⟨cs, hcs, if_pos (List.mem_singleton_self cs.id)⟩
  have hget := (hv.setsAscend.withParent [cs.id] parent).getCardSet hrow
  have hchange : s.db.moveOne cs.id parent =
      .ok (s.db.withParent [cs.id] parent, { cs with parent }) := by
    simp only [Database.moveOne, h, bind, Except.bind]
    rw [hget]
    rfl
  have hattempt : s.attempt (·.moveOne cs.id parent) =
      .ok (s.saving (s.db.withParent [cs.id] parent), { cs with parent }) :=
    Store.attempt_of_ok hchange ⟨hv.validate_withParent hparent hacyclic, hsave⟩
  refine (ends_transaction_of_ok hattempt).bind_ok ?_
  refine ends_ask ?_ fun _ hfail => by cases hfail
  intro destination hask
  obtain rfl := Except.ok.inj hask
  exact ⟨by rw [← hv.setsAscend.destination_withParent [cs.id] hparent]; rfl, rfl⟩

theorem Moves.missing {name : String}
    (hmissing : set ∉ s.db.cardSets.map (·.id) ∨ ∃ p ∈ parent, p ∉ s.db.cardSets.map (·.id)) :
    Moves s set parent (.error (.setNotFound name)) s := by
  have hnot : set ∈ s.db.cardSets.map (·.id) → ¬ ∀ p ∈ parent, p ∈ s.db.cardSets.map (·.id) := by
    intro hset hparent
    exact hmissing.elim (· hset) fun ⟨p, hp, hno⟩ => hno (hparent p hp)
  refine ⟨⟨fun _ => hmissing, fun _ => ⟨_, rfl⟩⟩, ⟨?_, ?_⟩, ?_, fun _ _ => rfl, ?_⟩
  · rintro ⟨_, _, _, ⟨⟩⟩
  · rintro ⟨hset, p, hp, hthere, _⟩
    exact absurd (fun q hq => Option.mem_unique hp hq ▸ hthere) (hnot hset)
  · rintro _ _ _ ⟨⟩
  · intro hset hparent
    exact absurd (fun p hp => (hparent p hp).1) (hnot hset)

theorem Moves.loop {p : CardSetId} {name parentName : String} {chain : List String}
    (hset : set ∈ s.db.cardSets.map (·.id)) (hp : p ∈ s.db.cardSets.map (·.id))
    (hway : Relation.ReflTransGen s.db.ParentLink p set) (hname : s.db.Named set name)
    (hparentName : s.db.Named p parentName) (hchain : s.db.ClosingChain set p chain) :
    Moves s set (some p) (.error (.loopIntroduced name parentName chain)) s := by
  refine ⟨⟨?_, ?_⟩, ⟨fun _ => ⟨hset, p, rfl, hp, hway⟩, fun _ => ⟨_, _, _, rfl⟩⟩, ?_,
    fun _ _ => rfl, fun _ hno => absurd hway (hno p rfl).2⟩
  · rintro ⟨_, ⟨⟩⟩
  · rintro (hno | ⟨_, ⟨⟩, hno⟩)
    · exact absurd hset hno
    · exact absurd hp hno
  · rintro _ _ _ ⟨⟩
    exact ⟨p, rfl, hname, hparentName, hchain⟩

theorem Moves.done {cs : CardSet} (hcs : cs ∈ s.db.cardSets)
    (hparent : ∀ p ∈ parent, p ∈ s.db.cardSets.map (·.id))
    (hnone : ∀ p ∈ parent, ¬ Relation.ReflTransGen s.db.ParentLink p cs.id) :
    Moves s cs.id parent (.ok ((Report.about [{ cs with parent }]).success
      ("Moved " ++ cs.name ++ " " ++ s.db.destination parent)))
      (s.saving (s.db.withParent [cs.id] parent)) := by
  refine ⟨⟨?_, ?_⟩, ⟨?_, ?_⟩, ?_, ?_, fun _ _ => ⟨cs, hcs, rfl, rfl, rfl⟩⟩
  · rintro ⟨_, ⟨⟩⟩
  · rintro (hno | ⟨p, hp, hno⟩)
    · exact absurd (List.mem_map_of_mem hcs) hno
    · exact absurd (hparent p hp) hno
  · rintro ⟨_, _, _, ⟨⟩⟩
  · rintro ⟨_, p, hp, _, hway⟩
    exact absurd hway (hnone p hp)
  · rintro _ _ _ ⟨⟩
  · rintro _ ⟨⟩

/-- A set is moved unless it or its parent is missing, or the parent is the set or below it. -/
theorem reparent_moves (hv : s.db.Valid) (hsave : s.failing = false) (set : CardSetId)
    (parent : Option CardSetId) : Ends (reparent set parent) s (Moves s set parent) := by
  by_cases hmissing : set ∉ s.db.cardSets.map (·.id) ∨ ∃ p ∈ parent, p ∉ s.db.cardSets.map (·.id)
  · obtain ⟨id, hmove⟩ := hv.setsAscend.moveSet_missing hmissing
    refine (ends_reparent_declined hmove).mono ?_
    rintro r s' ⟨rfl, rfl⟩
    exact .missing hmissing
  · simp only [not_or, not_not, not_exists, not_and] at hmissing
    obtain ⟨hset, hparent⟩ := hmissing
    have hmove := hv.setsAscend.moveSet_eq hset hparent
    have hloop := hv.setsAscend.onLoop_withParent_iff hset parent
    by_cases hon : (s.db.withParent [set] parent).onLoop set = true
    · rw [if_pos hon] at hmove
      refine (ends_reparent_declined hmove).mono ?_
      rintro r s' ⟨rfl, rfl⟩
      obtain ⟨p, hp, hway⟩ := hloop.mp hon
      obtain ⟨q, hq, hchain⟩ := hv.setsAscend.closingChain_loopNames hv.names hon
      obtain rfl := Option.mem_unique hp hq
      obtain rfl := Option.mem_def.mp hp
      exact .loop hset (hparent p rfl) hway (hv.setsAscend.named hset)
        (hv.setsAscend.named (hparent p rfl)) hchain
    · rw [if_neg hon] at hmove
      have hnone : ∀ p ∈ parent, ¬ Relation.ReflTransGen s.db.ParentLink p set :=
        fun p hp hway => hon (hloop.mpr ⟨p, hp, hway⟩)
      have hacyclic : (s.db.withParent [set] parent).Acyclic := by
        refine (hv.setsAscend.acyclic_withParent_iff hv.acyclic (by simpa using hset) parent).mpr ?_
        intro p hp x hx
        exact List.mem_singleton.mp hx ▸ hnone p hp
      obtain ⟨cs, hcs, rfl⟩ := List.mem_map.mp hset
      refine (ends_reparent_moved hv hsave hcs hparent hmove hacyclic).mono ?_
      rintro r s' ⟨rfl, rfl⟩
      exact .done hcs hparent hnone

theorem reparent_moves_binder : Database.binder.Valid ∧
    Ends (reparent ⟨0⟩ (some ⟨1⟩)) (Store.ofDatabase Database.binder) (fun r s' =>
      (∃ name parentName chain, r = .error (.loopIntroduced name parentName chain)) ∧
        s' = Store.ofDatabase Database.binder) ∧
    Ends (reparent ⟨2⟩ (some ⟨1⟩)) (Store.ofDatabase Database.binder) fun r s' =>
      (∃ report, r = .ok report) ∧
        s' = (Store.ofDatabase Database.binder).saving
          (Database.binder.withParent [⟨2⟩] (some ⟨1⟩)) := by
  have hv := Database.valid_binder
  have hwork := fun set => reparent_moves (s := Store.ofDatabase Database.binder) hv rfl set (some ⟨1⟩)
  have hpack : ⟨0⟩ ∈ Database.binder.cardSets.map (·.id) := List.mem_of_getElem? (i := 0) rfl
  have hhounds : ⟨1⟩ ∈ Database.binder.cardSets.map (·.id) := List.mem_of_getElem? (i := 1) rfl
  have hherders : ⟨2⟩ ∈ Database.binder.cardSets.map (·.id) := List.mem_of_getElem? (i := 2) rfl
  refine ⟨hv, (hwork ⟨0⟩).mono ?_, (hwork ⟨2⟩).mono ?_⟩
  · intro r s' hmoves
    have hlink : Database.binder.ParentLink ⟨1⟩ ⟨0⟩ :=
      ⟨_, List.mem_cons_of_mem _ List.mem_cons_self, rfl, rfl⟩
    have hloop := hmoves.loopIntroduced_iff.mpr ⟨hpack, ⟨1⟩, rfl, hhounds, .single hlink⟩
    obtain ⟨name, parentName, chain, rfl⟩ := hloop
    exact ⟨⟨name, parentName, chain, rfl⟩, hmoves.unchanged _ rfl⟩
  · intro r s' hmoves
    have hnone : ¬ Relation.ReflTransGen Database.binder.ParentLink ⟨1⟩ ⟨2⟩ := by
      intro hway
      have hon := (hv.setsAscend.onLoop_withParent_iff hherders _).mpr ⟨_, rfl, hway⟩
      revert hon
      decide +kernel
    obtain ⟨cs, _, _, rfl, rfl⟩ := hmoves.moved hherders fun p hp => by
      obtain rfl := Option.some.inj hp
      exact ⟨hhounds, hnone⟩
    exact ⟨⟨_, rfl⟩, rfl⟩

/-! All children -/

theorem ends_reparentChildren_declined {failure : Failure}
    (h : s.db.moveChildren source target = .error failure) :
    Ends (reparentChildren source target) s fun r s' => r = .error failure ∧ s' = s := by
  exact (ends_transaction_of_error (Store.attempt_of_error h)).bind_error

theorem affected_foldl_success (text : CardSet → String) (moved : List CardSet) (r : Report) :
    (moved.foldl (fun r cs => r.success (text cs)) r).affected = r.affected := by
  induction moved generalizing r with
  | nil => rfl
  | cons cs moved ih => exact ih (r.success (text cs))

theorem ends_reparentChildren_moved {moved : List CardSet} {db : Database}
    (h : s.db.moveChildren source target = .ok (db, moved)) (ha : s.Accepts db) :
    Ends (reparentChildren source target) s fun r s' =>
      (∃ report, r = .ok report ∧ report.affected = moved) ∧ s' = s.saving db := by
  refine (ends_transaction_of_ok (Store.attempt_of_ok h ha)).bind_ok ?_
  refine ends_ask ?_ fun _ hfail => by cases hfail
  intro destination _
  have haffected := affected_foldl_success
    (fun cs => "Moved " ++ cs.name ++ " " ++ destination) moved (.about moved)
  cases moved with
  | nil => exact ⟨⟨_, rfl, rfl⟩, rfl⟩
  | cons cs moved => exact ⟨⟨_, rfl, haffected⟩, rfl⟩

/-- All children of a set are moved, or none of them when the new parent is below that set. -/
theorem reparentChildren_moves (hv : s.db.Valid) (hsave : s.failing = false)
    (hsource : source ∈ s.db.cardSets.map (·.id))
    (htarget : ∀ t ∈ target, t ∈ s.db.cardSets.map (·.id)) :
    Ends (reparentChildren source target) s (MovesChildren s source target) := by
  have hchildren : ∀ x ∈ s.db.children source, x ∈ s.db.cardSets.map (·.id) := by
    intro x hx
    obtain ⟨cs, hcs, rfl⟩ := List.mem_map.mp hx
    exact List.mem_map_of_mem (List.mem_of_mem_filter hcs)
  have hacyclic := hv.setsAscend.acyclic_withParent_iff hv.acyclic hchildren target
  have hbelow : (s.db.withParent (s.db.children source) target).Acyclic ↔
      ∀ t ∈ target, ¬ Relation.TransGen s.db.ParentLink t source := by
    simp only [hacyclic, ← hv.setsAscend.exists_children_iff, not_exists, not_and]
  have horder := fun (order : List CardSetId) (hperm : order.Perm (s.db.children source)) =>
    hv.setsAscend.moveSets_perm hv.acyclic hchildren htarget hperm
  rcases hv.setsAscend.moveSets_cases hv.acyclic hchildren htarget with
    ⟨hall, hmoves⟩ | ⟨hloop, name, targetName, chain, hmoves⟩
  · have hnone := hbelow.mp hall
    have hchange := hv.setsAscend.moveChildren_ok hsource hmoves
    refine (ends_reparentChildren_moved hchange
      ⟨hv.validate_withParent htarget hall, hsave⟩).mono ?_
    rintro r s' ⟨⟨report, rfl, haffected⟩, rfl⟩
    refine ⟨⟨?_, ?_⟩, ?_, fun _ => ⟨report, rfl, ?_, ?_, ?_⟩, horder⟩
    · rintro ⟨_, _, _, ⟨⟩⟩
    · rintro ⟨t, ht, hway⟩
      exact absurd hway (hnone t ht)
    · rintro _ ⟨⟩
    · rw [hv.setsAscend.withParent_children]
    · exact haffected
    · rw [haffected]
      exact List.pairwise_map.mpr (hv.setsAscend.sublist List.filter_sublist)
  · have hchange := hv.setsAscend.moveChildren_error hsource hmoves
    refine (ends_reparentChildren_declined hchange).mono ?_
    rintro r s' ⟨rfl, rfl⟩
    rw [hbelow] at hloop
    refine ⟨⟨fun _ => ?_, fun _ => ⟨_, _, _, rfl⟩⟩, fun _ _ => rfl, fun hno => absurd hno hloop,
      horder⟩
    simpa using hloop

theorem reparentChildren_moves_binder : Database.binder.Valid ∧
    Ends (reparentChildren ⟨0⟩ none) (Store.ofDatabase Database.binder) (fun r _ =>
      ∃ report, r = .ok report ∧ report.affected.map (·.name) = ["Hounds", "Herders"]) ∧
    Ends (reparentChildren ⟨0⟩ (some ⟨1⟩)) (Store.ofDatabase Database.binder) fun r s' =>
      (∃ name targetName chain, r = .error (.loopIntroduced name targetName chain)) ∧
        s' = Store.ofDatabase Database.binder := by
  have hv := Database.valid_binder
  have hpack : ⟨0⟩ ∈ Database.binder.cardSets.map (·.id) := List.mem_of_getElem? (i := 0) rfl
  have hhounds : ⟨1⟩ ∈ Database.binder.cardSets.map (·.id) := List.mem_of_getElem? (i := 1) rfl
  have hwork : ∀ target : Option CardSetId, (∀ t ∈ target, t ∈ Database.binder.cardSets.map (·.id)) →
      Ends (reparentChildren ⟨0⟩ target) (Store.ofDatabase Database.binder) _ :=
    fun _ => reparentChildren_moves (s := Store.ofDatabase Database.binder) hv rfl hpack
  refine ⟨hv, (hwork none (by simp)).mono ?_, (hwork (some ⟨1⟩) ?_).mono ?_⟩
  · intro r s' hmoves
    obtain ⟨report, rfl, _, haffected, _⟩ := hmoves.moved (by simp)
    refine ⟨report, rfl, ?_⟩
    rw [haffected]
    decide +kernel
  · intro t ht
    obtain rfl := Option.some.inj ht
    exact hhounds
  · intro r s' hmoves
    have hlink : Database.binder.ParentLink ⟨1⟩ ⟨0⟩ :=
      ⟨_, List.mem_cons_of_mem _ List.mem_cons_self, rfl, rfl⟩
    obtain ⟨name, targetName, chain, rfl⟩ :=
      hmoves.loopIntroduced_iff.mpr ⟨⟨1⟩, rfl, .single hlink⟩
    exact ⟨⟨name, targetName, chain, rfl⟩, hmoves.unchanged _ rfl⟩

end CardBinder.Work
