import CardBinder.Forest
import CardBinder.Proofs.Search
import Mathlib.Data.List.Perm.Subperm
import Mathlib.Data.Nat.Find

/-! Walks up through the parents: what `onLoop` finds are exactly the ways back to where they started. -/

namespace CardBinder.Database
variable {db : Database} {id current last : CardSetId} {seen : List CardSetId} {m n fuel : Nat}

/-- The set `n` parents above `id`. -/
def climb (db : Database) : Nat → CardSetId → Option CardSetId
  | 0, id => some id
  | n + 1, id => (db.parent? id).bind (db.climb n)

/-- No set is above itself. -/
def Acyclic (db : Database) : Prop :=
  ∀ id n, db.climb (n + 1) id ≠ some id

theorem climb_one (db : Database) (id : CardSetId) : db.climb 1 id = db.parent? id := by
  simp [climb]

theorem climb_add (db : Database) (m n : Nat) (id : CardSetId) :
    db.climb (m + n) id = (db.climb m id).bind (db.climb n) := by
  induction m generalizing id with
  | zero => simp [climb]
  | succ m ih =>
    rw [Nat.succ_add, climb, climb, Option.bind_assoc]
    exact Option.bind_congr fun p _ => ih p

/-- Walks only read the parents. -/
theorem climb_congr {db' : Database} (h : ∀ id, db'.parent? id = db.parent? id) (n : Nat)
    (id : CardSetId) : db'.climb n id = db.climb n id := by
  induction n generalizing id with
  | zero => rfl
  | succ n ih =>
    rw [climb, climb, h]
    exact Option.bind_congr fun p _ => ih p

theorem parent?_some {parent : CardSetId} (h : db.parent? id = some parent) :
    ∃ cs ∈ db.cardSets, cs.id = id ∧ cs.parent = some parent := by
  obtain ⟨cs, hcs, hp⟩ := Option.bind_eq_some_iff.mp h
  obtain ⟨hmem, hid⟩ := rowAt?_some hcs
  exact ⟨cs, hmem, RowId.ext hid, hp⟩

/-! The walk that `ancestry` takes -/

theorem ancestorsFrom_getLast (db : Database) (fuel : Nat) (seen : List CardSetId)
    (current : CardSetId) :
    ∃ last n, (current :: db.ancestorsFrom fuel seen current).getLast? = some last ∧
      db.climb n current = some last := by
  induction fuel generalizing seen current with
  | zero => exact ⟨current, 0, by simp [ancestorsFrom], rfl⟩
  | succ fuel ih =>
    rw [ancestorsFrom]
    split
    · exact ⟨current, 0, by simp, rfl⟩
    · rename_i parent hparent
      split
      · exact ⟨current, 0, by simp, rfl⟩
      · obtain ⟨last, n, hlast, hclimb⟩ := ih (parent :: seen) parent
        refine ⟨last, n + 1, ?_, ?_⟩
        · rw [List.getLast?_cons_cons, hlast]
        · rw [climb, hparent, Option.bind_some, hclimb]

/-- The walk goes on as long as it comes to sets that were not seen. -/
theorem ancestorsFrom_getLast_eq (hfuel : n ≤ fuel) (hclimb : db.climb n current = some last)
    (hnew : ∀ i < n, ∀ x, db.climb (i + 1) current = some x → x ∉ seen)
    (hinj : ∀ i j, i < j → j < n → ∀ x, db.climb (i + 1) current = some x →
      db.climb (j + 1) current ≠ some x)
    (hback : ∃ x ∈ seen, db.parent? last = some x) :
    (current :: db.ancestorsFrom fuel seen current).getLast? = some last := by
  induction n generalizing fuel seen current with
  | zero =>
    obtain ⟨x, hx, hp⟩ := hback
    rw [climb, Option.some.injEq] at hclimb
    subst hclimb
    cases fuel with
    | zero => simp [ancestorsFrom]
    | succ fuel => simp [ancestorsFrom, hp, hx]
  | succ n ih =>
    obtain ⟨parent, hparent, hrest⟩ := Option.bind_eq_some_iff.mp hclimb
    obtain ⟨fuel, rfl⟩ : ∃ f, fuel = f + 1 := ⟨fuel - 1, by omega⟩
    have hstep : ∀ i, db.climb (i + 1) current = db.climb i parent := by
      intro i
      rw [climb, hparent, Option.bind_some]
    have hunseen : parent ∉ seen := hnew 0 (Nat.succ_pos n) parent (by rw [hstep, climb])
    rw [ancestorsFrom, hparent]
    simp only [List.contains_iff_mem, hunseen, if_false]
    rw [List.getLast?_cons_cons]
    refine ih (by omega) hrest ?_ ?_ ?_
    · intro i hi x hx hmem
      rw [← hstep] at hx
      rcases List.mem_cons.mp hmem with rfl | hmem
      · exact hinj 0 (i + 1) (by omega) (by omega) x (by rw [hstep, climb]) hx
      · exact hnew (i + 1) (by omega) x hx hmem
    · intro i j hij hj x hi hj'
      rw [← hstep] at hi hj'
      exact hinj (i + 1) (j + 1) (by omega) (by omega) x hi hj'
    · obtain ⟨x, hx, hp⟩ := hback
      exact ⟨x, List.mem_cons_of_mem _ hx, hp⟩

/-! Loops -/

/-- On the shortest way from a set back to it, no set comes twice. -/
theorem climb_ne_of_least (hback : db.climb n id = some id)
    (hleast : ∀ m, 0 < m → m < n → db.climb m id ≠ some id) {i j : Nat} (hij : i < j) (hj : j < n)
    {x : CardSetId} (hi : db.climb i id = some x) : db.climb j id ≠ some x := by
  intro hj'
  -- Leaving out the steps between the two visits still leads back to the start.
  have hcut : db.climb (i + (n - j)) id = some id := by
    rw [climb_add, hi, Option.bind_some]
    rw [← Nat.add_sub_of_le (Nat.le_of_lt hj), climb_add, hj', Option.bind_some] at hback
    exact hback
  exact hleast (i + (n - j)) (by omega) (by omega) hcut

/-- A way back that visits `n` different sets needs as many rows. -/
theorem le_length_of_climb (hback : db.climb n id = some id)
    (hleast : ∀ m, 0 < m → m < n → db.climb m id ≠ some id) : n ≤ db.cardSets.length := by
  have hvisit : ∀ i < n, ∃ x, db.climb i id = some x ∧ x ∈ db.cardSets.map (·.id) := by
    intro i hi
    have hsplit := climb_add db i (n - i) id
    rw [Nat.add_sub_of_le (Nat.le_of_lt hi), hback] at hsplit
    obtain ⟨x, hx, hrest⟩ := Option.bind_eq_some_iff.mp hsplit.symm
    obtain ⟨k, hk⟩ : ∃ k, n - i = k + 1 := ⟨n - i - 1, by omega⟩
    rw [hk] at hrest
    obtain ⟨parent, hparent, _⟩ := Option.bind_eq_some_iff.mp hrest
    obtain ⟨cs, hcs, hid, _⟩ := parent?_some hparent
    exact ⟨x, hx, List.mem_map.mpr ⟨cs, hcs, hid⟩⟩
  choose! visited hvisited hmem using hvisit
  have hnodup : ((List.range n).map visited).Nodup := by
    refine List.Nodup.map_on ?_ List.nodup_range
    intro i hi j hj heq
    rw [List.mem_range] at hi hj
    rcases Nat.lt_trichotomy i j with hlt | hlt | hlt
    · exact absurd (heq ▸ hvisited j hj) (climb_ne_of_least hback hleast hlt hj (hvisited i hi))
    · exact hlt
    · exact absurd (heq ▸ hvisited i hi) (climb_ne_of_least hback hleast hlt hi (hvisited j hj))
  have hsub : (List.range n).map visited ⊆ db.cardSets.map (·.id) := by
    intro x hx
    obtain ⟨i, hi, rfl⟩ := List.mem_map.mp hx
    exact hmem i (List.mem_range.mp hi)
  have hlen := (List.subperm_of_subset hnodup hsub).length_le
  simpa using hlen

/-- A set is found on a loop exactly when following parents from it leads back to it. -/
theorem onLoop_iff : db.onLoop id = true ↔ ∃ n, db.climb (n + 1) id = some id := by
  rw [onLoop, beq_iff_eq, revisited?, ancestry]
  constructor
  · intro h
    obtain ⟨last, n, hlast, hclimb⟩ := ancestorsFrom_getLast db db.cardSets.length [id] id
    rw [hlast, Option.bind_some] at h
    refine ⟨n, ?_⟩
    rw [climb_add, hclimb, Option.bind_some, climb_one, h]
  · intro hloop
    classical
    -- the walk comes to the last set of the shortest way back, whose parent it has seen
    obtain ⟨hback, hmin⟩ := And.intro (Nat.find_spec hloop) (fun m => Nat.find_min hloop (m := m))
    generalize Nat.find hloop = n at hback hmin
    have hleast : ∀ m, 0 < m → m < n + 1 → db.climb m id ≠ some id := by
      intro m hm hlt
      obtain ⟨k, rfl⟩ : ∃ k, m = k + 1 := ⟨m - 1, by omega⟩
      exact hmin k (by omega)
    have hlen := le_length_of_climb hback hleast
    rw [climb_add] at hback
    obtain ⟨last, hlast, hparent⟩ := Option.bind_eq_some_iff.mp hback
    rw [climb_one] at hparent
    have hback' : db.climb (n + 1) id = some id := by
      rw [climb_add, hlast, Option.bind_some, climb_one, hparent]
    rw [ancestorsFrom_getLast_eq (by omega) hlast ?_ ?_ ⟨id, List.mem_singleton_self _, hparent⟩,
      Option.bind_some, hparent]
    · intro i hi x hx hmem
      rw [List.mem_singleton] at hmem
      exact hleast (i + 1) (by omega) (by omega) (hmem ▸ hx)
    · intro i j hij hj x hi
      exact climb_ne_of_least hback' hleast (by omega) (by omega) hi

theorem acyclic_iff_not_onLoop : db.Acyclic ↔ ∀ id, db.onLoop id = false := by
  simp only [Acyclic, ← Bool.not_eq_true, onLoop_iff, not_exists, ne_eq]

/-- The check that is made before saving passes exactly when there is no loop. -/
theorem checkForest_eq_ok_iff : db.checkForest = .ok () ↔ db.Acyclic := by
  have hloops : ∀ ids, db.loopsFrom [] ids = [] ↔ ∀ id ∈ ids, db.onLoop id = false := by
    intro ids
    induction ids with
    | nil => simp [loopsFrom]
    | cons id ids ih =>
      cases h : db.onLoop id <;> simp [loopsFrom, h, ih]
  have hcheck : db.checkForest = .ok () ↔ db.findLoops = [] := by
    rw [checkForest]
    split <;> simp_all
  rw [hcheck, findLoops, hloops, acyclic_iff_not_onLoop]
  constructor
  · intro h id
    by_contra hc
    rw [Bool.not_eq_false, onLoop_iff] at hc
    obtain ⟨n, hn⟩ := hc
    obtain ⟨parent, hparent, _⟩ := Option.bind_eq_some_iff.mp hn
    obtain ⟨cs, hcs, hid, _⟩ := parent?_some hparent
    have hno := h id (List.mem_map.mpr ⟨cs, hcs, hid⟩)
    rw [← Bool.not_eq_true, onLoop_iff] at hno
    exact hno ⟨n, hn⟩
  · intro h id _
    exact h id

end CardBinder.Database
