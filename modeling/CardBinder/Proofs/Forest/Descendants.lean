import CardBinder.Proofs.Forest.Detection

/-! The sets below a set: the search lists each of them once, the nearest first, wherever the parents
lead. -/

namespace CardBinder.Database
variable {db : Database} {id current x y : CardSetId} {seen queue below ids : List CardSetId}
  {d n fuel : Nat}

theorem mem_children : x ∈ db.children y ↔ db.ParentLink x y := by
  simp only [children, List.mem_map, List.mem_filter, beq_iff_eq, ParentLink]
  constructor
  · rintro ⟨cs, ⟨hcs, hparent⟩, hid⟩
    exact ⟨cs, hcs, hid, hparent⟩
  · rintro ⟨cs, hcs, hid, hparent⟩
    exact ⟨cs, ⟨hcs, hparent⟩, hid⟩

/-! How far a set is below another one -/

/-- The way up from `x` comes to `id` after `n` steps, and not before. -/
def Distance (db : Database) (id : CardSetId) (n : Nat) (x : CardSetId) : Prop :=
  db.climb n x = some id ∧ ∀ m < n, db.climb m x ≠ some id

theorem distance_self (db : Database) (id : CardSetId) : db.Distance id 0 id :=
  ⟨rfl, fun m hm => absurd hm (Nat.not_lt_zero m)⟩

/-- A set has one parent, so its child is one step farther away. -/
theorem SetsAscend.distance_child (h : db.SetsAscend) (hd : db.Distance id n y)
    (hlink : db.ParentLink x y) (hne : x ≠ id) : db.Distance id (n + 1) x := by
  have hstep : ∀ m, db.climb (m + 1) x = db.climb m y := by
    intro m
    rw [climb, h.parent?_eq_some_iff.mpr hlink, Option.bind_some]
  refine ⟨(hstep n).trans hd.1, fun m hm => ?_⟩
  cases m with
  | zero => exact fun hself => hne (Option.some.inj hself)
  | succ m =>
    rw [hstep]
    exact hd.2 m (Nat.lt_of_succ_lt_succ hm)

/-! The rounds of the search -/

theorem mem_unseen : x ∈ unseen seen ids ↔ x ∈ ids ∧ x ∉ seen := by
  induction ids generalizing seen with
  | nil => simp [unseen]
  | cons y ids ih =>
    rw [unseen]
    split
    · rename_i hseen
      rw [List.contains_iff_mem] at hseen
      rw [ih, List.mem_cons]
      refine and_congr_left fun hnew => (or_iff_right ?_).symm
      rintro rfl
      exact hnew hseen
    · rename_i hseen
      rw [List.contains_iff_mem] at hseen
      rw [List.mem_cons, ih, List.mem_cons, List.mem_cons, not_or]
      by_cases hxy : x = y
      · simp [hxy, hseen]
      · simp [hxy]

theorem nodup_unseen (seen ids : List CardSetId) : (unseen seen ids).Nodup := by
  induction ids generalizing seen with
  | nil => exact List.nodup_nil
  | cons y ids ih =>
    rw [unseen]
    split
    · exact ih seen
    · refine List.nodup_cons.mpr ⟨fun hmem => ?_, ih (y :: seen)⟩
      exact (mem_unseen.mp hmem).2 List.mem_cons_self

/-- The search with what it has seen and what is in its queue: the first set leaves the queue, and those of
its children that were not seen are listed and join it. -/
inductive Search (db : Database) : List CardSetId → List CardSetId → List CardSetId → Prop
  | done {seen : List CardSetId} : Search db seen [] []
  | round {seen queue below : List CardSetId} {current : CardSetId} :
      Search db ((unseen seen (db.children current)).reverse ++ seen)
        (queue ++ unseen seen (db.children current)) below →
      Search db seen (current :: queue) (unseen seen (db.children current) ++ below)

/-- The sets with rows that were not seen. -/
def unseenRows (db : Database) (seen : List CardSetId) : Finset CardSetId :=
  (db.cardSets.map (·.id)).toFinset \ seen.toFinset

theorem card_unseenRows (db : Database) (seen : List CardSetId) (current : CardSetId) :
    (db.unseenRows ((unseen seen (db.children current)).reverse ++ seen)).card +
      (unseen seen (db.children current)).length = (db.unseenRows seen).card := by
  have hleft : db.unseenRows ((unseen seen (db.children current)).reverse ++ seen) =
      db.unseenRows seen \ (unseen seen (db.children current)).toFinset := by
    ext x
    simp only [unseenRows, Finset.mem_sdiff, List.mem_toFinset, List.mem_append, List.mem_reverse]
    tauto
  have hsub : (unseen seen (db.children current)).toFinset ⊆ db.unseenRows seen := by
    intro x hx
    obtain ⟨hchild, hnew⟩ := mem_unseen.mp (List.mem_toFinset.mp hx)
    simp only [unseenRows, Finset.mem_sdiff, List.mem_toFinset]
    exact ⟨(mem_children.mp hchild).mem, hnew⟩
  rw [hleft, ← List.toFinset_card_of_nodup (nodup_unseen seen (db.children current))]
  exact Finset.card_sdiff_add_card_eq_card hsub

/-- Each round takes one set from the queue, and each set joins it once: the fuel lasts to the end. -/
theorem search_descendantsFrom (hfuel : (db.unseenRows seen).card + queue.length ≤ fuel) :
    db.Search seen queue (db.descendantsFrom fuel seen queue) := by
  induction fuel generalizing seen queue with
  | zero =>
    have hempty : queue = [] := List.eq_nil_of_length_eq_zero (by omega)
    subst hempty
    exact .done
  | succ fuel ih =>
    cases queue with
    | nil => exact .done
    | cons current queue =>
      refine .round (ih ?_)
      have hcard := db.card_unseenRows seen current
      rw [List.length_cons] at hfuel
      rw [List.length_append]
      omega

theorem search_descendants (db : Database) (id : CardSetId) :
    db.Search [id] [id] (db.descendants id) := by
  refine search_descendantsFrom ?_
  have hcard : (db.unseenRows [id]).card ≤ (db.cardSets.map (·.id)).length :=
    (Finset.card_le_card Finset.sdiff_subset).trans (List.toFinset_card_le _)
  rw [List.length_map] at hcard
  rw [List.length_singleton]
  omega

/-! What the search lists -/

theorem Search.nodup (hs : db.Search seen queue below) :
    below.Nodup ∧ ∀ x ∈ below, x ∉ seen := by
  induction hs with
  | done => simp
  | round _ ih =>
    obtain ⟨hnodup, hnew⟩ := ih
    simp only [List.mem_append, List.mem_reverse, not_or] at hnew
    refine ⟨(nodup_unseen _ _).append hnodup fun x hx hx' => (hnew x hx').1 hx, fun x hx => ?_⟩
    rcases List.mem_append.mp hx with hx | hx
    · exact (mem_unseen.mp hx).2
    · exact (hnew x hx).2

/-- Children of what was queued or listed were seen or are listed. -/
theorem Search.closed (hs : db.Search seen queue below) (hlink : db.ParentLink x y)
    (hy : y ∈ queue ++ below) : x ∈ seen ++ below := by
  induction hs with
  | done => cases hy
  | @round seen queue below current _ ih =>
    have hrest : y ∈ (queue ++ unseen seen (db.children current)) ++ below →
        x ∈ seen ++ (unseen seen (db.children current) ++ below) := by
      intro hmem
      have hx := ih hmem
      simp only [List.mem_append, List.mem_reverse] at hx ⊢
      tauto
    rcases List.mem_cons.mp hy with rfl | hy
    · by_cases hseen : x ∈ seen
      · exact List.mem_append_left _ hseen
      · have hnew : x ∈ unseen seen (db.children y) := mem_unseen.mpr ⟨mem_children.mpr hlink, hseen⟩
        exact List.mem_append_right _ (List.mem_append_left _ hnew)
    · exact hrest (by rwa [List.append_assoc])

/-- What is at or below the set where the search began was listed, the set itself apart. -/
theorem Search.complete (hs : db.Search [id] [id] below)
    (hway : Relation.ReflTransGen db.ParentLink x id) : x = id ∨ x ∈ below := by
  induction hway using Relation.ReflTransGen.head_induction_on with
  | refl => exact .inl rfl
  | head hlink _ ih =>
    have hmem := hs.closed hlink (List.mem_cons.mpr ih)
    exact List.mem_cons.mp hmem

/-- A queue of sets `d` steps away, and behind them sets that are one step farther. -/
def Spread (db : Database) (id : CardSetId) (d : Nat) (queue : List CardSetId) : Prop :=
  ∃ near far, queue = near ++ far ∧ (∀ x ∈ near, db.Distance id d x) ∧
    ∀ x ∈ far, db.Distance id (d + 1) x

/-- When the first set leaves the queue, what is one step farther away can join it. -/
theorem Spread.exists_next (hspread : db.Spread id d (current :: queue)) :
    ∃ e, d ≤ e ∧ db.Distance id e current ∧
      ∀ new, (∀ x ∈ new, db.Distance id (e + 1) x) → db.Spread id e (queue ++ new) := by
  obtain ⟨near, far, heq, hnear, hfar⟩ := hspread
  cases near with
  | nil =>
    obtain rfl : current :: queue = far := heq
    obtain ⟨hcurrent, hqueue⟩ := List.forall_mem_cons.mp hfar
    exact ⟨d + 1, Nat.le_succ d, hcurrent, fun new hnew => ⟨queue, new, rfl, hqueue, hnew⟩⟩
  | cons first near =>
    obtain ⟨rfl, rfl⟩ := List.cons.inj heq
    obtain ⟨hcurrent, hnear⟩ := List.forall_mem_cons.mp hnear
    refine ⟨d, Nat.le_refl d, hcurrent, fun new hnew => ⟨near, far ++ new, ?_, hnear, ?_⟩⟩
    · exact List.append_assoc near far new
    · exact List.forall_mem_append.mpr ⟨hfar, hnew⟩

/-- What is still listed is farther away than the queue begins, and farther and farther. -/
theorem Search.distances (h : db.SetsAscend) (hs : db.Search seen queue below) (hid : id ∈ seen)
    (hspread : db.Spread id d queue) : (∀ x ∈ below, ∃ n, d < n ∧ db.Distance id n x) ∧
      below.Pairwise fun x y => ∃ m n, db.Distance id m x ∧ db.Distance id n y ∧ m ≤ n := by
  induction hs generalizing d with
  | done => exact ⟨by simp, List.Pairwise.nil⟩
  | @round seen queue below current _ ih =>
    obtain ⟨e, hle, hcurrent, hnext⟩ := hspread.exists_next
    -- the set at the start was seen from the beginning, so what is new is a step farther than its parent
    have hnew : ∀ x ∈ unseen seen (db.children current), db.Distance id (e + 1) x := by
      intro x hx
      obtain ⟨hchild, hunseen⟩ := mem_unseen.mp hx
      refine h.distance_child hcurrent (mem_children.mp hchild) ?_
      rintro rfl
      exact hunseen hid
    obtain ⟨hfar, hsorted⟩ := ih (List.mem_append_right _ hid) (hnext _ hnew)
    refine ⟨fun x hx => ?_, List.pairwise_append.mpr ⟨?_, hsorted, fun x hx y hy => ?_⟩⟩
    · rcases List.mem_append.mp hx with hx | hx
      · exact ⟨e + 1, by omega, hnew x hx⟩
      · obtain ⟨n, hlt, hn⟩ := hfar x hx
        exact ⟨n, by omega, hn⟩
    · exact List.pairwise_of_forall_mem_list fun x hx y hy =>
        ⟨e + 1, e + 1, hnew x hx, hnew y hy, Nat.le_refl _⟩
    · obtain ⟨n, hlt, hn⟩ := hfar y hy
      exact ⟨e + 1, n, hnew x hx, hn, hlt⟩

/-- How the sets below a set are listed. -/
structure ListsBelow (db : Database) (id : CardSetId) : Prop where
  /-- The search from the set on comes to an end. -/
  ends : db.Search [id] [id] (db.descendants id)
  mem_iff : ∀ x, x ∈ db.descendants id ↔ x ≠ id ∧ Relation.TransGen db.ParentLink x id
  once : (db.descendants id).Nodup
  order : (db.descendants id).Pairwise fun x y =>
    ∃ m n, db.Distance id m x ∧ db.Distance id n y ∧ m ≤ n

/-- Below a set are just the sets from which a way leads up to it, also where parents run in a loop. -/
theorem SetsAscend.descendants_lists (h : db.SetsAscend) (id : CardSetId) : db.ListsBelow id := by
  have hs := db.search_descendants id
  obtain ⟨hnodup, hnew⟩ := hs.nodup
  have hspread : db.Spread id 0 [id] := by
    refine ⟨[id], [], rfl, fun x hx => ?_, by simp⟩
    obtain rfl := List.mem_singleton.mp hx
    exact db.distance_self x
  obtain ⟨hdistance, hsorted⟩ := hs.distances h (List.mem_singleton_self id) hspread
  refine ⟨hs, fun x => ⟨fun hx => ?_, ?_⟩, hnodup, hsorted⟩
  · obtain ⟨n, hpos, hclimb, _⟩ := hdistance x hx
    obtain ⟨k, rfl⟩ := Nat.exists_eq_succ_of_ne_zero (Nat.ne_of_gt hpos)
    exact ⟨fun heq => hnew x hx (List.mem_singleton.mpr heq), h.transGen_iff.mpr ⟨k, hclimb⟩⟩
  · rintro ⟨hne, hway⟩
    exact (hs.complete hway.to_reflTransGen).resolve_left hne

/-- Below the set C of the loop A, C, B: first A and the set that hangs from C alone, then B. -/
theorem descendants_lists_tangle : tangle.SetsAscend ∧ tangle.ListsBelow ⟨4⟩ ∧
    tangle.descendants ⟨4⟩ = [⟨0⟩, ⟨5⟩, ⟨1⟩] :=
  ⟨setsAscend_tangle, setsAscend_tangle.descendants_lists ⟨4⟩, by decide⟩

end CardBinder.Database
