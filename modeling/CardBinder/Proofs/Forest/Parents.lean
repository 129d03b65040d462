import CardBinder.Proofs.Forest.Loop

/-! Sets that get another parent: the rows keep their places and names, and only these sets are linked otherwise. -/

namespace CardBinder.Database
variable {db : Database} {id x y : CardSetId} {ids moved more : List CardSetId}
  {parent : Option CardSetId}

/-- The database with one parent, or none, for some sets. -/
def withParent (db : Database) (moved : List CardSetId) (parent : Option CardSetId) : Database :=
  { db with cardSets := db.cardSets.map fun cs =>
      if moved.contains cs.id then { cs with parent } else cs }

theorem mem_withParent {row : CardSet} : row ∈ (db.withParent moved parent).cardSets ↔
    ∃ cs ∈ db.cardSets, (if cs.id ∈ moved then { cs with parent } else cs) = row := by
  simp only [withParent, List.contains_iff_mem, List.mem_map]

theorem withParent_map {β : Type} {g : CardSet → β} (hg : ∀ cs, g { cs with parent } = g cs)
    (db : Database) (moved : List CardSetId) :
    (db.withParent moved parent).cardSets.map g = db.cardSets.map g := by
  rw [withParent, List.map_map]
  refine List.map_congr_left fun cs _ => ?_
  rw [Function.comp_apply]
  split
  · exact hg cs
  · rfl

theorem withParent_ids (db : Database) (moved : List CardSetId) (parent : Option CardSetId) :
    (db.withParent moved parent).cardSets.map (·.id) = db.cardSets.map (·.id) :=
  withParent_map (fun _ => rfl) db moved

theorem SetsAscend.withParent (h : db.SetsAscend) (moved : List CardSetId)
    (parent : Option CardSetId) : (db.withParent moved parent).SetsAscend := by
  rw [setsAscend_iff, withParent_ids]
  exact setsAscend_iff.mp h

theorem withParent_nil (db : Database) (parent : Option CardSetId) :
    db.withParent [] parent = db := by
  simp [withParent]

/-- Which sets get the parent is all that counts, not in which order, nor how often. -/
theorem withParent_congr (h : ∀ x, x ∈ moved ↔ x ∈ more) :
    db.withParent moved parent = db.withParent more parent := by
  simp only [withParent, List.contains_iff_mem, h]

theorem withParent_withParent (db : Database) (moved more : List CardSetId)
    (parent : Option CardSetId) :
    (db.withParent moved parent).withParent more parent = db.withParent (moved ++ more) parent := by
  refine congrArg (fun rows => { db with cardSets := rows }) ?_
  rw [withParent, List.map_map]
  refine List.map_congr_left fun cs _ => ?_
  rw [Function.comp_apply]
  by_cases hmoved : cs.id ∈ moved <;> by_cases hmore : cs.id ∈ more <;> simp [hmoved, hmore]

theorem SetsAscend.setParent_eq (h : db.SetsAscend) (id : CardSetId) (parent : Option CardSetId) :
    db.setParent id parent = db.withParent [id] parent := by
  rw [setParent, h.modifyCardSet_eq_map]
  simp only [Database.withParent, List.contains_iff_mem, List.mem_singleton]

/-- Giving sets a parent one after the other changes the rows of these sets. -/
theorem SetsAscend.foldl_setParent (h : db.SetsAscend) (ids : List CardSetId)
    (parent : Option CardSetId) :
    ids.foldl (fun db child => db.setParent child parent) db = db.withParent ids parent := by
  induction ids generalizing db with
  | nil => exact (withParent_nil db parent).symm
  | cons id ids ih =>
    rw [List.foldl_cons, h.setParent_eq, ih (h.withParent [id] parent), withParent_withParent]
    rfl

theorem SetsAscend.eq_of_id (h : db.SetsAscend) {a b : CardSet} (ha : a ∈ db.cardSets)
    (hb : b ∈ db.cardSets) (hid : a.id = b.id) : a = b :=
  List.inj_on_of_nodup_map h.nodup_ids ha hb hid

theorem SetsAscend.mem_children_iff (h : db.SetsAscend) {cs : CardSet} (hcs : cs ∈ db.cardSets) :
    cs.id ∈ db.children id ↔ cs.parent = some id := by
  rw [children, List.mem_map]
  constructor
  · rintro ⟨child, hchild, hid⟩
    obtain ⟨hmem, hparent⟩ := List.mem_filter.mp hchild
    rw [← h.eq_of_id hmem hcs hid]
    exact beq_iff_eq.mp hparent
  · intro hparent
    exact ⟨cs, List.mem_filter.mpr ⟨hcs, beq_iff_eq.mpr hparent⟩, rfl⟩

/-- A set that got the parent is linked to it, and any other one is linked as before. -/
theorem parentLink_withParent : (db.withParent moved parent).ParentLink x y ↔
    x ∈ moved ∧ x ∈ db.cardSets.map (·.id) ∧ parent = some y ∨ x ∉ moved ∧ db.ParentLink x y := by
  constructor
  · rintro ⟨row, hrow, hid, hparent⟩
    obtain ⟨cs, hcs, rfl⟩ := mem_withParent.mp hrow
    split at hid <;> rename_i hmoved
    · rw [if_pos hmoved] at hparent
      exact .inl ⟨hid ▸ hmoved, List.mem_map.mpr ⟨cs, hcs, hid⟩, hparent⟩
    · rw [if_neg hmoved] at hparent
      exact .inr ⟨hid ▸ hmoved, cs, hcs, hid, hparent⟩
  · rintro (⟨hmoved, hx, hparent⟩ | ⟨hmoved, cs, hcs, rfl, hparent⟩)
    · obtain ⟨cs, hcs, rfl⟩ := List.mem_map.mp hx
      exact ⟨{ cs with parent }, mem_withParent.mpr ⟨cs, hcs, if_pos hmoved⟩, rfl, hparent⟩
    · exact ⟨cs, mem_withParent.mpr ⟨cs, hcs, if_neg hmoved⟩, rfl, hparent⟩

theorem named_withParent {name : String} :
    (db.withParent moved parent).Named id name ↔ db.Named id name := by
  have hnames : (db.withParent moved parent).cardSets.map (fun cs => (cs.id, cs.name)) =
      db.cardSets.map fun cs => (cs.id, cs.name) := withParent_map (fun _ => rfl) db moved
  have hnamed : ∀ db : Database,
      db.Named id name ↔ (id, name) ∈ db.cardSets.map fun cs => (cs.id, cs.name) := by
    intro db
    simp [Named]
  rw [hnamed, hnamed, hnames]

theorem isChain_and {r : CardSetId → CardSetId → Prop} {p : CardSetId → Prop}
    (h : (ids ++ [y]).IsChain r) (hp : ∀ x ∈ ids, p x) :
    (ids ++ [y]).IsChain fun a b => r a b ∧ p a := by
  induction ids with
  | nil => exact List.isChain_singleton y
  | cons x ids ih =>
    obtain ⟨hfirst, hchain⟩ := List.isChain_cons.mp h
    refine List.isChain_cons.mpr ⟨fun z hz => ⟨hfirst z hz, hp x List.mem_cons_self⟩, ?_⟩
    exact ih hchain fun z hz => hp z (List.mem_cons_of_mem _ hz)

theorem SetsAscend.cardSetName_of_named (h : db.SetsAscend) {name : String}
    (hname : db.Named id name) : db.cardSetName id = name := by
  obtain ⟨cs, hcs, rfl, rfl⟩ := hname
  exact h.cardSetName hcs

theorem SetsAscend.cardSetName_withParent (h : db.SetsAscend)
    (hid : id ∈ db.cardSets.map (·.id)) :
    (db.withParent moved parent).cardSetName id = db.cardSetName id :=
  (h.withParent moved parent).cardSetName_of_named (named_withParent.mpr (h.named hid))

end CardBinder.Database
