import CardBinder.Proofs.Listing.Hierarchy

/-! The tree listing: each set behind its parent, or behind all that hangs from the set before it, and at
the end the sets that hang from no root. -/

namespace CardBinder.Database
variable {db : Database} {cs x : CardSet} {e : TreeEntry} {depth : Nat} {sets children : List CardSet}
  {entries below rest before after listed : List TreeEntry} {stack : List (Nat × CardSet)}

/-- Sets and everything below them: behind each set its children, by name. -/
inductive DepthFirst (db : Database) : Nat → List CardSet → List TreeEntry → Prop
  | nil {depth : Nat} : DepthFirst db depth [] []
  | cons {depth : Nat} {cs : CardSet} {sets children : List CardSet} {below rest : List TreeEntry} :
      db.Siblings (some cs.id) children → DepthFirst db (depth + 1) children below →
      DepthFirst db depth sets rest →
      DepthFirst db depth (cs :: sets) (db.treeEntry depth cs :: (below ++ rest))

/-- All of the sets have as many ancestors. -/
def HangAt (db : Database) (depth : Nat) (sets : List CardSet) : Prop :=
  ∀ cs ∈ sets, ∃ above, db.Hangs above cs ∧ above.length = depth

theorem HangAt.mem (hat : db.HangAt depth sets) (hcs : cs ∈ sets) : cs ∈ db.cardSets := by
  obtain ⟨_, hh, _⟩ := hat cs hcs
  exact hh.mem

theorem HangAt.tail (hat : db.HangAt depth (cs :: sets)) : db.HangAt depth sets :=
  fun c hc => hat c (List.mem_cons_of_mem cs hc)

theorem HangAt.down (hat : db.HangAt depth (cs :: sets))
    (hs : db.Siblings (some cs.id) children) : db.HangAt (depth + 1) children := by
  obtain ⟨above, hh, hlength⟩ := hat cs List.mem_cons_self
  intro child hchild
  obtain ⟨hmem, hparent⟩ := (hs.mem child).mp hchild
  exact ⟨cs.id :: above, .child hh hmem hparent, congrArg (· + 1) hlength⟩

theorem hangAt_roots (hs : db.Siblings none sets) : db.HangAt 0 sets := by
  intro root hroot
  obtain ⟨hmem, hnone⟩ := (hs.mem root).mp hroot
  exact ⟨[], .root hmem hnone, rfl⟩

/-! What is listed -/

theorem DepthFirst.hangs (hd : db.DepthFirst depth sets entries) (hat : db.HangAt depth sets) :
    ∀ e ∈ entries, e = db.treeEntry e.depth e.cardSet ∧
      ∃ above, db.Hangs above e.cardSet ∧ above.length = e.depth := by
  induction hd with
  | nil => simp
  | cons hs _ _ ihBelow ihRest =>
    intro e he
    rcases List.mem_cons.mp he with rfl | he
    · exact ⟨rfl, hat _ List.mem_cons_self⟩
    · rcases List.mem_append.mp he with he | he
      · exact ihBelow (hat.down hs) e he
      · exact ihRest hat.tail e he

section Ascending
variable (h : db.SetsAscend)
include h

/-- What is at or below a set is the set itself, or at or below a child. -/
theorem SetsAscend.way_iff (hx : x ∈ db.cardSets) (hcs : cs ∈ db.cardSets)
    (hs : db.Siblings (some cs.id) children) : Relation.ReflTransGen db.ParentLink x.id cs.id ↔
      x = cs ∨ ∃ child ∈ children, Relation.ReflTransGen db.ParentLink x.id child.id := by
  constructor
  · intro hway
    rcases hway.cases_tail with hid | ⟨y, hway, hlink⟩
    · exact .inl (h.eq_of_id hx hcs hid.symm)
    · obtain ⟨child, hchild, rfl, hparent⟩ := hlink
      exact .inr ⟨child, (hs.mem child).mpr ⟨hchild, hparent⟩, hway⟩
  · rintro (rfl | ⟨child, hchild, hway⟩)
    · exact .refl
    · obtain ⟨hmem, hparent⟩ := (hs.mem child).mp hchild
      exact hway.tail ⟨child, hmem, rfl, hparent⟩

theorem DepthFirst.mem_iff (hd : db.DepthFirst depth sets entries) (hat : db.HangAt depth sets) :
    x ∈ entries.map (·.cardSet) ↔
      x ∈ db.cardSets ∧ ∃ cs ∈ sets, Relation.ReflTransGen db.ParentLink x.id cs.id := by
  induction hd with
  | nil => simp
  | @cons depth cs sets children below rest hs _ _ ihBelow ihRest =>
    have hcs := hat.mem List.mem_cons_self
    rw [List.map_cons, List.mem_cons, List.map_append, List.mem_append,
      ihBelow (hat.down hs), ihRest hat.tail, List.exists_mem_cons_iff]
    constructor
    · rintro (hself | ⟨hx, hway⟩ | ⟨hx, hway⟩)
      · obtain rfl : x = cs := hself
        exact ⟨hcs, .inl .refl⟩
      · exact ⟨hx, .inl ((h.way_iff hx hcs hs).mpr (.inr hway))⟩
      · exact ⟨hx, .inr hway⟩
    · rintro ⟨hx, hway | hway⟩
      · exact ((h.way_iff hx hcs hs).mp hway).imp_right fun hway => .inl ⟨hx, hway⟩
      · exact .inr (.inr ⟨hx, hway⟩)

/-- Of two sets with as many ancestors none is above the other. -/
theorem HangAt.eq_of_way (hat : db.HangAt depth sets) (hcs : cs ∈ sets) (hx : x ∈ sets)
    (hway : Relation.ReflTransGen db.ParentLink x.id cs.id) : x = cs := by
  obtain ⟨above, hh, hlength⟩ := hat x hx
  obtain ⟨above', hh', hlength'⟩ := hat cs hcs
  rcases Relation.reflTransGen_iff_eq_or_transGen.mp hway with hid | hway
  · exact h.eq_of_id hh.mem hh'.mem hid.symm
  · obtain ⟨shorter, hshort, hlt⟩ := hh.exists_of_mem h hh'.mem ((hh.mem_above_iff h).mpr hway)
    rw [hshort.unique h hh'] at hlt
    omega

/-- No set is below two of them. -/
theorem HangAt.eq_of_ways (hat : db.HangAt depth sets) {a b : CardSet} (ha : a ∈ sets) (hb : b ∈ sets)
    {id : CardSetId} (hwayA : Relation.ReflTransGen db.ParentLink id a.id)
    (hwayB : Relation.ReflTransGen db.ParentLink id b.id) : a = b := by
  have hunique : Relator.RightUnique db.ParentLink := by
    intro x y z hy hz
    exact Option.some.inj ((h.parent?_eq_some_iff.mpr hy).symm.trans (h.parent?_eq_some_iff.mpr hz))
  rcases hwayA.total_of_right_unique hunique hwayB with hway | hway
  · exact hat.eq_of_way h hb ha hway
  · exact (hat.eq_of_way h ha hb hway).symm

theorem DepthFirst.nodup (hd : db.DepthFirst depth sets entries) (hat : db.HangAt depth sets)
    (hsets : sets.Nodup) : (entries.map (·.cardSet)).Nodup := by
  induction hd with
  | nil => exact List.nodup_nil
  | @cons depth cs sets children below rest hs hdBelow hdRest ihBelow ihRest =>
    have hcs := hat.mem List.mem_cons_self
    obtain ⟨hnot, hsets⟩ := List.nodup_cons.mp hsets
    have hchildren := hat.down hs
    have hbelow : ∀ x ∈ below.map (·.cardSet), Relation.TransGen db.ParentLink x.id cs.id := by
      intro x hx
      obtain ⟨_, child, hchild, hway⟩ := (hdBelow.mem_iff h hchildren).mp hx
      obtain ⟨hmem, hparent⟩ := (hs.mem child).mp hchild
      exact .tail' hway ⟨child, hmem, rfl, hparent⟩
    have hrest : ∀ x ∈ rest.map (·.cardSet), ¬ Relation.ReflTransGen db.ParentLink x.id cs.id := by
      intro x hx hway
      obtain ⟨_, other, hother, hway'⟩ := (hdRest.mem_iff h hat.tail).mp hx
      have heq := hat.eq_of_ways h List.mem_cons_self (List.mem_cons_of_mem cs hother) hway hway'
      exact hnot (heq ▸ hother)
    rw [List.map_cons, List.map_append, List.nodup_cons, List.mem_append]
    refine ⟨?_, (ihBelow hchildren hs.nodup).append (ihRest hat.tail hsets) ?_⟩
    · rintro (hself | hself)
      · obtain ⟨above, hh, _⟩ := hat cs List.mem_cons_self
        exact hh.not_mem_above h ((hh.mem_above_iff h).mpr (hbelow cs hself))
      · exact hrest cs hself .refl
    · intro x hx hx'
      exact hrest x hx' (hbelow x hx).to_reflTransGen

/-! Where an entry stands -/

/-- An entry comes first, or right behind its parent, or right behind all that is at or below an
earlier set with the same parent. -/
def Placed (db : Database) (before : List TreeEntry) (e : TreeEntry) : Prop :=
  before = [] ∧ e.cardSet.parent = none ∨
  (∃ pre p, before = pre ++ [p] ∧ e.cardSet.parent = some p.cardSet.id) ∨
  ∃ pre earlier below, before = pre ++ earlier :: below ∧
    earlier.cardSet.parent = e.cardSet.parent ∧ earlier.cardSet.name < e.cardSet.name ∧
    ∀ x, x ∈ (earlier :: below).map (·.cardSet) ↔ x ∈ db.cardSets ∧
      Relation.ReflTransGen db.ParentLink x.id earlier.cardSet.id

omit h in
theorem Placed.behind (hp : db.Placed before e) (hne : before ≠ []) (pre : List TreeEntry) :
    db.Placed (pre ++ before) e := by
  rcases hp with ⟨hempty, _⟩ | ⟨pre', p, rfl, hparent⟩ | ⟨pre', earlier, below, rfl, hplaced⟩
  · exact absurd hempty hne
  · exact .inr (.inl ⟨pre ++ pre', p, by simp, hparent⟩)
  · exact .inr (.inr ⟨pre ++ pre', earlier, below, by simp, hplaced⟩)

/-- The first entry is one of the sets, and every other one is placed behind some. -/
theorem DepthFirst.placed {parent : Option CardSetId} (hd : db.DepthFirst depth sets entries)
    (hat : db.HangAt depth sets) (hparent : ∀ cs ∈ sets, cs.parent = parent)
    (hascend : sets.Pairwise fun a b => a.name < b.name) (heq : entries = before ++ e :: after) :
    before = [] ∧ e.cardSet ∈ sets ∨ before ≠ [] ∧ db.Placed before e := by
  induction hd generalizing before e after parent with
  | nil => simp at heq
  | @cons depth cs sets children below rest hs hdBelow hdRest ihBelow ihRest =>
    cases before with
    | nil =>
      obtain rfl := (List.cons.inj heq).1
      exact .inl ⟨rfl, List.mem_cons_self⟩
    | cons first before =>
      refine .inr ⟨List.cons_ne_nil _ _, ?_⟩
      obtain ⟨rfl, hsplit⟩ := List.cons.inj heq
      obtain ⟨hfirst, hrest⟩ := List.pairwise_cons.mp hascend
      have hbelow : ∀ mid, below = before ++ e :: mid →
          db.Placed (db.treeEntry depth cs :: before) e := by
        intro mid hmid
        have hchildren := fun child hchild => ((hs.mem child).mp hchild).2
        rcases ihBelow (hat.down hs) hchildren hs.ascend hmid with ⟨rfl, hchild⟩ | ⟨hne, hplaced⟩
        · exact .inr (.inl ⟨[], db.treeEntry depth cs, rfl, hchildren _ hchild⟩)
        · exact hplaced.behind hne [db.treeEntry depth cs]
      have hbehind : ∀ mid, before = below ++ mid → rest = mid ++ e :: after →
          db.Placed (db.treeEntry depth cs :: before) e := by
        rintro mid rfl hmid
        have hsets := fun c hc => hparent c (List.mem_cons_of_mem cs hc)
        rcases ihRest hat.tail hsets hrest hmid with ⟨rfl, hset⟩ | ⟨hne, hplaced⟩
        · refine .inr (.inr ⟨[], db.treeEntry depth cs, below, by simp, ?_, hfirst _ hset, ?_⟩)
          · exact (hparent cs List.mem_cons_self).trans (hsets _ hset).symm
          · have hone : db.HangAt depth [cs] := fun c hc =>
              hat c (List.mem_singleton.mp hc ▸ List.mem_cons_self)
            have hblock : db.DepthFirst depth [cs] (db.treeEntry depth cs :: (below ++ [])) :=
              .cons hs hdBelow .nil
            intro x
            rw [← List.append_nil below, hblock.mem_iff h hone]
            simp [treeEntry]
        · exact hplaced.behind hne (db.treeEntry depth cs :: below)
      rcases List.append_eq_append_iff.mp hsplit with ⟨mid, hbefore, hmid⟩ | ⟨mid, hmid, hafter⟩
      · exact hbehind mid hbefore hmid
      · cases mid with
        | nil => exact hbehind [] (by simpa using hmid.symm) (by simpa using hafter.symm)
        | cons first mid =>
          obtain ⟨rfl, _⟩ := List.cons.inj hafter
          exact hbelow mid hmid

end Ascending

/-! The listing -/

theorem subtree_depthFirst (h : db.SetsAscend) (hnames : (db.cardSets.map (·.name)).Nodup) {fuel : Nat}
    (hat : db.HangAt depth sets) (hfuel : db.cardSets.length ≤ fuel + depth) :
    db.DepthFirst depth sets (sets.flatMap (db.subtree fuel depth)) := by
  induction fuel generalizing depth sets with
  | zero =>
    cases sets with
    | nil => exact .nil
    | cons cs sets =>
      obtain ⟨above, hh, hlength⟩ := hat cs List.mem_cons_self
      have hlt := hh.length_lt h
      omega
  | succ fuel ih =>
    induction sets with
    | nil => exact .nil
    | cons cs sets ihSets =>
      have hs := siblings_sortedChildren hnames h cs.id
      rw [List.flatMap_cons, subtree, List.cons_append]
      exact .cons hs (ih (hat.down hs) (by omega)) (ihSets hat.tail)

/-- The rounds of the listing: the set on top of the stack is listed, and its children, by name, take
its place. -/
inductive Rounds (db : Database) : List (Nat × CardSet) → List TreeEntry → Prop
  | done : Rounds db [] []
  | round {depth : Nat} {cs : CardSet} {stack : List (Nat × CardSet)} {entries : List TreeEntry} :
      Rounds db ((db.sortedChildren cs.id).map (depth + 1, ·) ++ stack) entries →
      Rounds db ((depth, cs) :: stack) (db.treeEntry depth cs :: entries)

theorem DepthFirst.rounds (h : db.SetsAscend) (hnames : (db.cardSets.map (·.name)).Nodup)
    (hd : db.DepthFirst depth sets entries) (hstack : db.Rounds stack rest) :
    db.Rounds (sets.map (depth, ·) ++ stack) (entries ++ rest) := by
  induction hd generalizing stack rest with
  | nil => exact hstack
  | cons hs _ _ ihBelow ihSets =>
    have hbelow := ihBelow (ihSets hstack)
    rw [hs.unique (siblings_sortedChildren hnames h _)] at hbelow
    rw [List.cons_append, List.append_assoc]
    exact .round hbelow

theorem foldl_listIfMissing (hids : (sets.map (·.id)).Nodup) :
    sets.foldl db.listIfMissing listed = listed ++ (sets.filter fun cs =>
      !(listed.any (·.cardSet.id == cs.id))).map (db.treeEntry 0) := by
  induction sets generalizing listed with
  | nil => simp
  | cons cs sets ih =>
    obtain ⟨hnot, hids⟩ := List.nodup_cons.mp hids
    rw [List.foldl_cons, listIfMissing]
    split
    · rename_i hlisted
      rw [ih hids, List.filter_cons_of_neg (by simpa using hlisted)]
    · rename_i hmissing
      have hrest : sets.filter (fun c => !((listed ++ [db.treeEntry 0 cs]).any (·.cardSet.id == c.id))) =
          sets.filter fun c => !(listed.any (·.cardSet.id == c.id)) := by
        refine List.filter_congr fun c hc => ?_
        have hne : ((db.treeEntry 0 cs).cardSet.id == c.id) = false :=
          beq_eq_false_iff_ne.mpr fun heq => hnot (List.mem_map.mpr ⟨c, hc, heq.symm⟩)
        rw [List.any_append, List.any_cons, List.any_nil, hne, Bool.or_self, Bool.or_false]
      rw [ih hids, hrest, List.filter_cons_of_pos (by simpa using hmissing)]
      simp

/-- How the card sets of a database are listed. -/
structure ListsTree (db : Database) : Prop where
  /-- The rounds that start with the roots come to an end. -/
  ends : db.Rounds (db.rootSets.map (0, ·)) db.rootedTree
  once : (db.tree.map (·.cardSet)).Perm db.cardSets
  counted : ∀ e ∈ db.tree, e.cardCount = db.copies.countP (·.cardSet == e.cardSet.id)
  rooted : ∀ cs, cs ∈ db.rootedTree.map (·.cardSet) ↔ cs ∈ db.cardSets ∧ db.Rooted cs.id
  order : ∃ roots, db.Siblings none roots ∧ db.DepthFirst 0 roots db.rootedTree
  placed : ∀ before e after, db.rootedTree = before ++ e :: after → db.Placed before e
  depth : ∀ e ∈ db.rootedTree, ∃ above : List CardSetId, above.Nodup ∧ above.length = e.depth ∧
    ∀ x, x ∈ above ↔ Relation.TransGen db.ParentLink e.cardSet.id x
  others : ∃ others : List CardSet, db.tree = db.rootedTree ++ others.map (db.treeEntry 0) ∧
    others.Pairwise (fun a b => a.id.val < b.id.val) ∧
    ∀ cs, cs ∈ others ↔ cs ∈ db.cardSets ∧ ¬ db.Rooted cs.id

section Tree
variable (h : db.SetsAscend) (hnames : (db.cardSets.map (·.name)).Nodup)
include h hnames

theorem rootedTree_depthFirst : db.DepthFirst 0 db.rootSets db.rootedTree :=
  subtree_depthFirst h hnames (hangAt_roots (siblings_rootSets hnames)) (Nat.le_refl _)

theorem mem_rootedTree_iff :
    cs ∈ db.rootedTree.map (·.cardSet) ↔ cs ∈ db.cardSets ∧ db.Rooted cs.id := by
  have hroots := siblings_rootSets hnames
  rw [(rootedTree_depthFirst h hnames).mem_iff h (hangAt_roots hroots), Rooted]
  simp only [hroots.mem, and_assoc]

/-- What is listed at the end are the sets that hang from no root. -/
theorem exists_others : ∃ others : List CardSet,
    db.tree = db.rootedTree ++ others.map (db.treeEntry 0) ∧ others.Sublist db.cardSets ∧
      ∀ cs, cs ∈ others ↔ cs ∈ db.cardSets ∧ ¬ db.Rooted cs.id := by
  refine ⟨_, foldl_listIfMissing h.nodup_ids, List.filter_sublist, fun cs => ?_⟩
  rw [List.mem_filter]
  refine and_congr_right fun hcs => ?_
  rw [Bool.not_eq_true', ← Bool.not_eq_true, List.any_eq_true, not_iff_not]
  constructor
  · rintro ⟨e, he, hid⟩
    obtain ⟨hmem, hrooted⟩ := (mem_rootedTree_iff h hnames).mp (List.mem_map_of_mem he)
    rwa [← beq_iff_eq.mp hid]
  · intro hrooted
    obtain ⟨e, he, rfl⟩ := List.mem_map.mp ((mem_rootedTree_iff h hnames).mpr ⟨hcs, hrooted⟩)
    exact ⟨e, he, beq_self_eq_true _⟩

/-- Nothing is hidden and nothing is listed twice, wherever the parents lead. -/
theorem tree_lists : db.ListsTree := by
  have hroots := siblings_rootSets hnames
  have hat := hangAt_roots hroots
  have hd := rootedTree_depthFirst h hnames
  have hhangs := hd.hangs hat
  obtain ⟨others, htree, hsub, hothers⟩ := exists_others h hnames
  have hsets : db.tree.map (·.cardSet) = db.rootedTree.map (·.cardSet) ++ others := by
    rw [htree, List.map_append, List.map_map]
    exact congrArg _ (List.map_id others)
  have hrows : db.cardSets.Nodup := h.nodup_ids.of_map
  constructor
  case ends =>
    have hrounds := hd.rounds h hnames .done
    rwa [List.append_nil, List.append_nil] at hrounds
  case once =>
    have hnodup : (db.tree.map (·.cardSet)).Nodup := by
      rw [hsets]
      refine (hd.nodup h hat hroots.nodup).append (hrows.sublist hsub) ?_
      intro cs hcs hcs'
      exact ((hothers cs).mp hcs').2 ((mem_rootedTree_iff h hnames).mp hcs).2
    refine (List.perm_ext_iff_of_nodup hnodup hrows).mpr fun cs => ?_
    rw [hsets, List.mem_append, mem_rootedTree_iff h hnames, hothers, ← and_or_left]
    exact and_iff_left (Classical.em _)
  case counted =>
    intro e he
    rw [htree] at he
    rcases List.mem_append.mp he with he | he
    · rw [(hhangs e he).1]
      rfl
    · obtain ⟨cs, _, rfl⟩ := List.mem_map.mp he
      rfl
  case rooted => exact fun cs => mem_rootedTree_iff h hnames
  case order => exact ⟨db.rootSets, hroots, hd⟩
  case placed =>
    intro before e after heq
    have hnone := fun cs hcs => ((hroots.mem cs).mp hcs).2
    rcases hd.placed h hat hnone hroots.ascend heq with ⟨hempty, hroot⟩ | ⟨_, hplaced⟩
    · exact .inl ⟨hempty, hnone _ hroot⟩
    · exact hplaced
  case depth =>
    intro e he
    obtain ⟨_, above, hh, hlength⟩ := hhangs e he
    exact ⟨above, (hh.nodup h).of_cons, hlength, fun x => hh.mem_above_iff h⟩
  case others => exact ⟨others, htree, h.sublist hsub, hothers⟩

end Tree

/-- Two roots, one with two levels below it, a loop of two sets with one below it, and a set whose parent
is missing. -/
def thicket : Database :=
  let row (id : Nat) (name : String) (parent : Option Nat) : CardSet :=
    { id := ⟨id⟩, name, author := "", comment := "", annotations := "", inUse := false,
      parent := parent.map fun id => ⟨id⟩ }
  { empty with
    cardSets := [row 0 "Zoo" none, row 1 "All" none, row 2 "Decks" (some 1), row 3 "Boxes" (some 1),
      row 4 "Bleed" (some 3), row 5 "X" (some 6), row 6 "Y" (some 5), row 7 "Below" (some 6),
      row 9 "Lost" (some 8)]
    nextCardSetId := 10
    copies := [⟨⟨0⟩, ⟨4⟩, ⟨0⟩⟩, ⟨⟨1⟩, ⟨4⟩, ⟨0⟩⟩] }

theorem tree_lists_thicket : thicket.ListsTree ∧ thicket.tree.length = 9 := by
  have hlists : thicket.ListsTree := tree_lists (by unfold SetsAscend; decide) (by decide +kernel)
  have hlength := hlists.once.length_eq
  rw [List.length_map] at hlength
  exact ⟨hlists, hlength⟩

end CardBinder.Database
