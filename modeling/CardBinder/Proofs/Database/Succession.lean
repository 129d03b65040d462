import CardBinder.Proofs.Database.Edits
import CardBinder.Proofs.Forest.Succession

/-! A database into which a new set comes, in the place of an old one or next to the others. -/

namespace CardBinder.Database
variable {db db' : Database} {old id : CardSetId} {row : CardSet} {d : CardSetDraft}

theorem Orderly.setsAscend (h : db.Orderly) : db.SetsAscend := h.cardSets.ascends

/-- Names are different, so that a name leads to the set that has it. -/
theorem Orderly.findCardSet_name (h : db.Orderly) (hrow : row ∈ db.cardSets) :
    db.findCardSet row.name = some row.id := by
  rw [findCardSet]
  have hsome : (db.cardSets.find? (·.name == row.name)).isSome :=
    List.find?_isSome.mpr ⟨row, hrow, beq_self_eq_true row.name⟩
  obtain ⟨cs, hcs⟩ := Option.isSome_iff_exists.mp hsome
  have hname : cs.name = row.name := by simpa using List.find?_some hcs
  have hsame := List.inj_on_of_nodup_map h.names (List.mem_of_find?_eq_some hcs) hrow hname
  rw [hcs, hsame, Option.map_some]

/-- The next number is that of no set. -/
theorem Orderly.fresh (h : db.Orderly) : ∀ cs ∈ db.cardSets, cs.id ≠ ⟨db.nextCardSetId⟩ :=
  h.countersAhead.fresh

theorem Orderly.not_mem_ids (h : db.Orderly) :
    ⟨db.nextCardSetId⟩ ∉ db.cardSets.map (·.id) := by
  intro hmem
  obtain ⟨cs, hcs, hid⟩ := List.mem_map.mp hmem
  exact h.fresh cs hcs hid

theorem Referential.parent_mem (h : db.Referential) :
    ∀ cs ∈ db.cardSets, ∀ parent ∈ cs.parent, parent ∈ db.cardSets.map (·.id) := by
  intro cs hcs parent hparent
  exact List.mem_map.mpr (h.parents cs hcs parent hparent)

theorem mem_succeed_ids : id ∈ (succeed old row db.cardSets).map (·.id) ↔
    id ∈ db.cardSets.map (·.id) ∧ id ≠ old ∨ id = row.id := by
  rw [succeed_ids, List.mem_append, List.mem_singleton]
  refine or_congr_left ?_
  simp only [List.mem_map, List.mem_filter, bne_iff_ne]
  constructor
  · rintro ⟨cs, ⟨hcs, hne⟩, rfl⟩
    exact ⟨⟨cs, hcs, rfl⟩, hne⟩
  · rintro ⟨⟨cs, hcs, rfl⟩, hne⟩
    exact ⟨cs, ⟨hcs, hne⟩, rfl⟩

/-- Parents are as before, but for children of the old set, and the new one has its own. -/
theorem mem_succeed {cs : CardSet} (h : cs ∈ succeed old row db.cardSets) :
    cs = row ∨ ∃ cs' ∈ db.cardSets, cs'.id ≠ old ∧
      cs = if cs'.parent = some old then { cs' with parent := some row.id } else cs' := by
  rcases List.mem_append.mp h with h | h
  · obtain ⟨cs', hkept, rfl⟩ := List.mem_map.mp h
    obtain ⟨hcs', hne⟩ := List.mem_filter.mp hkept
    exact .inr ⟨cs', hcs', by simpa using hne, rfl⟩
  · exact .inl (List.mem_singleton.mp h)

theorem not_mem_succeed (hne : row.id ≠ old) : ∀ cs ∈ succeed old row db.cardSets, cs.id ≠ old := by
  intro cs hcs
  rcases mem_succeed hcs with rfl | ⟨cs', _, hother, rfl⟩
  · exact hne
  · split <;> exact hother

/-- When the new set takes the name of the old one, no other set has it. -/
theorem name_succeed {gone : CardSet} (hn : (db.cardSets.map (·.name)).Nodup)
    (hgone : gone ∈ db.cardSets) (hname : row.name = gone.name) :
    ∀ cs ∈ succeed gone.id row db.cardSets, cs.name = gone.name ↔ cs = row := by
  intro cs hcs
  rcases mem_succeed hcs with rfl | ⟨cs', hcs', hne, hcs⟩
  · exact ⟨fun _ => rfl, fun _ => hname⟩
  · have hsame : cs.name = cs'.name := by
      rw [hcs]
      split <;> rfl
    have hother : cs.name ≠ gone.name := fun heq =>
      hne (congrArg CardSet.id (List.inj_on_of_nodup_map hn hcs' hgone (hsame.symm.trans heq)))
    exact ⟨fun heq => absurd heq hother, fun heq => absurd (heq ▸ hname) hother⟩

/-- When the new set closes no loop and its copies are of printings, all references are in order. -/
theorem Succeeds.referential (h : Succeeds db db' old row) (hr : db.Referential)
    (hloop : db'.onLoop row.id = false)
    (hprintings : ∃ new, db'.printings = db.printings ++ new)
    (hcopies : ∀ c ∈ db'.copies, c ∈ db.copies ∧ c.cardSet ≠ old ∨
      c.cardSet = row.id ∧ (db'.printing? c.printing).isSome) : db'.Referential where
  acyclic := h.acyclic hr.acyclic hloop
  parents := by
    intro cs hcs parent hparent
    have hthere : parent ∈ (succeed old row db.cardSets).map (·.id) := by
      rw [mem_succeed_ids]
      rw [h.rows] at hcs
      rcases mem_succeed hcs with rfl | ⟨cs', hcs', _, rfl⟩
      · exact .inl ⟨(h.parent parent hparent).2, (h.parent parent hparent).1⟩
      · split at hparent <;> rename_i hold
        · exact .inr (Option.some.inj hparent).symm
        · refine .inl ⟨h.parents cs' hcs' parent hparent, ?_⟩
          rintro rfl
          exact hold hparent
    rw [← h.rows] at hthere
    exact List.mem_map.mp hthere
  copySets := by
    intro c hc
    have hthere : c.cardSet ∈ (succeed old row db.cardSets).map (·.id) := by
      rw [mem_succeed_ids]
      rcases hcopies c hc with ⟨hc, hne⟩ | ⟨hset, _⟩
      · exact .inl ⟨List.mem_map.mpr (hr.copySets c hc), hne⟩
      · exact .inr hset
    rw [← h.rows] at hthere
    exact List.mem_map.mp hthere
  copyPrintings := by
    intro c hc
    rcases hcopies c hc with ⟨hc, _⟩ | ⟨_, hsome⟩
    · obtain ⟨new, hnew⟩ := hprintings
      obtain ⟨p, hp⟩ := Option.isSome_iff_exists.mp (hr.copyPrintings c hc)
      exact Option.isSome_iff_exists.mpr ⟨p, printing?_of_append hnew hp⟩
    · exact hsome

theorem Succeeds.validate (h : Succeeds db db' old row) (hr : db.Referential)
    (hloop : db'.onLoop row.id = false)
    (hprintings : ∃ new, db'.printings = db.printings ++ new)
    (hcopies : ∀ c ∈ db'.copies, c ∈ db.copies ∧ c.cardSet ≠ old ∨
      c.cardSet = row.id ∧ (db'.printing? c.printing).isSome) : db'.validate = .ok () := by
  obtain ⟨next, horder⟩ := exists_inOrder h.ascends'
  exact (h.referential hr hloop hprintings hcopies).validate horder

section New
variable (hv : db.Valid) (hrows : db'.cardSets = db.cardSets ++ [d.toCardSet ⟨db.nextCardSetId⟩])
  (hparent : ∀ x ∈ d.parent, ∃ cs ∈ db.cardSets, cs.id = x)
include hv hrows hparent

/-- A new set comes next to those that are there. -/
theorem Valid.succeeds_new :
    Succeeds db db' ⟨db.nextCardSetId⟩ (d.toCardSet ⟨db.nextCardSetId⟩) := by
  have hne := hv.fresh
  refine ⟨?_, hv.setsAscend, hv.cardSets.below, hv.parent_mem, ?_⟩
  · rw [hrows]
    refine (succeed_self (d.toCardSet _) hne ?_).symm
    intro cs hcs hcsParent
    obtain ⟨row, hrow, hid⟩ := hv.parents cs hcs _ hcsParent
    exact hne row hrow hid
  · intro x hx
    obtain ⟨cs, hcs, rfl⟩ := hparent x hx
    exact ⟨hne cs hcs, List.mem_map_of_mem hcs⟩

/-- Nothing is below a new set yet, so that it is on no loop. -/
theorem Valid.validate_new (hprintings : ∃ new, db'.printings = db.printings ++ new)
    (hcopies : ∀ c ∈ db'.copies, c ∈ db.copies ∨
      c.cardSet = ⟨db.nextCardSetId⟩ ∧ (db'.printing? c.printing).isSome) :
    db'.validate = .ok () := by
  have hsucceeds := hv.succeeds_new hrows hparent
  have hloop : db'.onLoop ⟨db.nextCardSetId⟩ = false := by
    rw [← Bool.not_eq_true]
    intro hloop
    obtain ⟨x, _, hway⟩ := hsucceeds.onLoop_iff.mp hloop
    obtain ⟨y, _, hlink⟩ := Relation.TransGen.tail'_iff.mp hway
    exact hsucceeds.new_not_mem (hsucceeds.parent_mem hlink)
  refine hsucceeds.validate hv.toReferential hloop hprintings fun c hc => ?_
  refine (hcopies c hc).imp_left fun hc => ⟨hc, fun heq => hsucceeds.new_not_mem ?_⟩
  exact heq ▸ List.mem_map.mpr (hv.copySets c hc)

end New

end CardBinder.Database
