import CardBinder.Tally
import Mathlib.Data.List.Basic
import Mathlib.Data.List.Induction

/-! What the counts of a tally come to, and what an entry says. -/

namespace CardBinder

/-- Keys that are ordered by one part and then by another are equal when both parts are. -/
theorem eq_of_compareLex {κ β γ : Type} [Ord β] [Std.LawfulEqOrd β] [Ord γ] [Std.LawfulEqOrd γ]
    {f : κ → β} {g : κ → γ} {a b : κ} (h : compareLex (compareOn f) (compareOn g) a b = .eq) :
    f a = f b ∧ g a = g b :=
  (Ordering.then_eq_eq.mp h).imp Std.LawfulEqOrd.eq_of_compare Std.LawfulEqOrd.eq_of_compare

namespace Tally
variable {κ : Type} {t : Tally κ} {p : κ → Bool} {k : κ} {n : Nat} {e : κ × Nat}
  {entries : List (κ × Nat)}

theorem countSum_cons (n : Nat) (ns : List Nat) : countSum (n :: ns) = n + countSum ns := rfl

theorem countSum_append (ms ns : List Nat) :
    countSum (ms ++ ns) = countSum ms + countSum ns := by
  induction ms with
  | nil => exact (Nat.zero_add _).symm
  | cons m ms ih => exact (congrArg (m + ·) ih).trans (Nat.add_assoc m _ _).symm

theorem countSum_le {ns : List Nat} {bound : Nat} (h : ∀ n ∈ ns, n ≤ bound) :
    countSum ns ≤ ns.length * bound := by
  induction ns with
  | nil => exact Nat.zero_le _
  | cons n ns ih =>
    obtain ⟨hn, hns⟩ := List.forall_mem_cons.mp h
    rw [countSum_cons, List.length_cons, Nat.succ_mul, Nat.add_comm]
    exact Nat.add_le_add (ih hns) hn

/-- What is left out counts nothing. -/
theorem countSum_filter {β : Type} (q : β → Bool) (f : β → Nat) (xs : List β) :
    countSum ((xs.filter q).map f) = countSum (xs.map fun x => if q x then f x else 0) := by
  induction xs with
  | nil => rfl
  | cons x xs ih =>
    rw [List.filter_cons, List.map_cons, countSum_cons, ← ih]
    split
    · rw [List.map_cons, countSum_cons]
    · rw [Nat.zero_add]

/-- How often keys are counted that satisfy `p`. -/
def countIf (t : Tally κ) (p : κ → Bool) : Nat :=
  countSum (t.entries.map fun e => if p e.1 then e.2 else 0)

/-- A fold whose every step counts some more. -/
theorem countIf_foldl {β : Type} {step : Tally κ → β → Tally κ} {more : β → Nat}
    (hstep : ∀ t x, (step t x).countIf p = t.countIf p + more x) (xs : List β) (t : Tally κ) :
    (xs.foldl step t).countIf p = t.countIf p + countSum (xs.map more) := by
  induction xs generalizing t with
  | nil => rfl
  | cons x xs ih =>
    rw [List.foldl_cons, ih, hstep, Nat.add_assoc]
    rfl

/-- What is counted either satisfies `p` or does not. -/
theorem countIf_add_countIf_not (t : Tally κ) (p : κ → Bool) :
    t.countIf p + t.countIf (fun k => !p k) = t.total := by
  obtain ⟨entries⟩ := t
  simp only [countIf, total]
  induction entries with
  | nil => rfl
  | cons e entries ih =>
    simp only [List.map_cons, countSum_cons, ← ih]
    rcases Bool.eq_false_or_eq_true (p e.1) with hp | hp <;>
      simp only [hp, Bool.not_false, Bool.not_true, Bool.false_eq_true, if_true, if_false] <;>
      omega

theorem countSum_of_not_mem [BEq κ] [LawfulBEq κ] (hnone : ∀ e ∈ entries, e.1 ≠ k) :
    countSum (entries.map fun e => if e.1 == k then e.2 else 0) = 0 := by
  induction entries with
  | nil => rfl
  | cons e entries ih =>
    obtain ⟨he, hrest⟩ := List.forall_mem_cons.mp hnone
    rw [List.map_cons, countSum_cons, ih hrest, if_neg (by simpa using he)]

section Add
variable [Ord κ]

theorem countSum_addTo (k : κ) (n : Nat) (entries : List (κ × Nat)) :
    countSum ((addTo k n entries).map (·.2)) = countSum (entries.map (·.2)) + n := by
  induction entries with
  | nil => simp [addTo, countSum]
  | cons e entries ih =>
    obtain ⟨k', m⟩ := e
    simp only [addTo]
    split <;> simp only [countSum, List.map_cons, List.foldr_cons] at ih ⊢ <;> omega

theorem total_add (t : Tally κ) (k : κ) (n : Nat) : (t.add k n).total = t.total + n :=
  countSum_addTo k n t.entries

theorem add_add [Std.ReflOrd κ] (t : Tally κ) (k : κ) (m n : Nat) :
    (t.add k m).add k n = t.add k (m + n) := by
  obtain ⟨entries⟩ := t
  refine congrArg Tally.mk ?_
  simp only [add]
  induction entries with
  | nil => simp [addTo]
  | cons e entries ih =>
    obtain ⟨k', m'⟩ := e
    simp only [addTo]
    split
    · simp [addTo]
    · rename_i heq
      simp only [addTo, heq, Nat.add_assoc]
    · rename_i hgt
      simp only [addTo, hgt, ih]

theorem ofList_append (ks : List κ) (k : κ) : ofList (ks ++ [k]) = (ofList ks).add k 1 := by
  rw [ofList, List.foldl_append]
  rfl

/-- Each key is counted once. -/
theorem total_ofList (ks : List κ) : (ofList ks).total = ks.length := by
  induction ks using List.reverseRecOn with
  | nil => rfl
  | append_singleton ks k ih => rw [ofList_append, total_add, ih, List.length_append]; rfl

/-- The keys ascend, and none is there that is counted no time. -/
structure Proper (t : Tally κ) : Prop where
  ascends : t.entries.Pairwise fun a b => compare a.1 b.1 = .lt
  positive : ∀ e ∈ t.entries, 0 < e.2

theorem proper_empty : (empty : Tally κ).Proper := ⟨List.Pairwise.nil, by simp [empty]⟩

theorem Proper.countIf_eq_zero_iff (h : t.Proper) :
    t.countIf p = 0 ↔ ∀ e ∈ t.entries, p e.1 = false := by
  obtain ⟨entries⟩ := t
  have hpositive := h.positive
  simp only [countIf] at hpositive ⊢
  clear h
  induction entries with
  | nil => simp [countSum]
  | cons e entries ih =>
    obtain ⟨he, hrest⟩ := List.forall_mem_cons.mp hpositive
    simp only [List.map_cons, countSum_cons, Nat.add_eq_zero_iff, ih hrest, List.forall_mem_cons]
    refine and_congr_left fun _ => ?_
    by_cases hp : p e.1 <;> simp [hp]
    omega

theorem Proper.isEmpty_iff (h : t.Proper) : t.isEmpty = true ↔ t.total = 0 := by
  have hall : t.total = t.countIf fun _ => true := by simp [total, countIf]
  rw [hall, h.countIf_eq_zero_iff, isEmpty, List.isEmpty_iff, List.eq_nil_iff_forall_not_mem]
  simp

/-- Whatever is done for each thing in turn, the keys stay in order. -/
theorem Proper.foldl {α : Type} {step : Tally κ → α → Tally κ} {xs : List α} (h : t.Proper)
    (hstep : ∀ t, ∀ x ∈ xs, t.Proper → (step t x).Proper) : (xs.foldl step t).Proper := by
  induction xs generalizing t with
  | nil => exact h
  | cons x xs ih =>
    exact ih (hstep t x List.mem_cons_self h) fun t y hy =>
      hstep t y (List.mem_cons_of_mem x hy)

theorem fst_of_mem_addTo (h : e ∈ addTo k n entries) :
    e.1 = k ∨ ∃ e' ∈ entries, e'.1 = e.1 := by
  induction entries with
  | nil => exact Or.inl (by simp_all [addTo])
  | cons e' entries ih =>
    obtain ⟨k', m⟩ := e'
    simp only [addTo] at h
    split at h
    · rcases List.mem_cons.mp h with rfl | h
      · exact Or.inl rfl
      · exact Or.inr ⟨e, h, rfl⟩
    · rcases List.mem_cons.mp h with rfl | h
      · exact Or.inr ⟨_, List.mem_cons_self, rfl⟩
      · exact Or.inr ⟨e, List.mem_cons_of_mem _ h, rfl⟩
    · rcases List.mem_cons.mp h with rfl | h
      · exact Or.inr ⟨_, List.mem_cons_self, rfl⟩
      · exact (ih h).imp_right fun ⟨e', he', hk⟩ => ⟨e', List.mem_cons_of_mem _ he', hk⟩

theorem keys_takeFrom_sublist (k : κ) (n : Nat) (entries : List (κ × Nat)) :
    ((takeFrom k n entries).map (·.1)).Sublist (entries.map (·.1)) := by
  induction entries with
  | nil => exact List.Sublist.refl _
  | cons e entries ih =>
    obtain ⟨k', m⟩ := e
    simp only [takeFrom]
    split
    · split
      · exact List.sublist_cons_self _ _
      · exact List.Sublist.refl _
    · exact ih.cons_cons k'

theorem Proper.take (h : t.Proper) (k : κ) (n : Nat) : (t.take k n).Proper where
  ascends := by
    have hkeys : (t.entries.map (·.1)).Pairwise fun a b => compare a b = .lt :=
      List.pairwise_map.mpr h.ascends
    exact List.pairwise_map.mp (hkeys.sublist (keys_takeFrom_sublist k n t.entries))
  positive := by
    obtain ⟨entries⟩ := t
    have hpositive := h.positive
    simp only [Tally.take] at hpositive ⊢
    clear h
    induction entries with
    | nil => simp [takeFrom]
    | cons e entries ih =>
      obtain ⟨k', m⟩ := e
      obtain ⟨hm, hrest⟩ := List.forall_mem_cons.mp hpositive
      simp only [takeFrom]
      split
      · split
        · exact hrest
        · exact List.forall_mem_cons.mpr ⟨by simp only; omega, hrest⟩
      · exact List.forall_mem_cons.mpr ⟨hm, ih hrest⟩

section Order
variable [Std.TransOrd κ]

theorem pairwise_addTo
    (h : entries.Pairwise fun a b => compare a.1 b.1 = .lt) :
    (addTo k n entries).Pairwise fun a b => compare a.1 b.1 = .lt := by
  induction entries with
  | nil => exact List.pairwise_singleton _ _
  | cons e entries ih =>
    obtain ⟨k', m⟩ := e
    obtain ⟨hafter, hrest⟩ := List.pairwise_cons.mp h
    simp only [addTo]
    split
    · rename_i hlt
      refine List.pairwise_cons.mpr ⟨fun e he => ?_, h⟩
      rcases List.mem_cons.mp he with rfl | he
      · exact hlt
      · exact Std.TransCmp.lt_trans hlt (hafter e he)
    · exact List.pairwise_cons.mpr ⟨hafter, hrest⟩
    · rename_i hgt
      refine List.pairwise_cons.mpr ⟨fun e he => ?_, ih hrest⟩
      rcases fst_of_mem_addTo he with hk | ⟨e', he', hk⟩
      · rw [hk]
        exact Std.OrientedCmp.gt_iff_lt.mp hgt
      · rw [← hk]
        exact hafter e' he'

theorem Proper.add (h : t.Proper) (k : κ) (hn : 0 < n) : (t.add k n).Proper where
  ascends := pairwise_addTo h.ascends
  positive := by
    obtain ⟨entries⟩ := t
    have hpositive := h.positive
    simp only [Tally.add] at hpositive ⊢
    clear h
    induction entries with
    | nil => simpa [addTo] using hn
    | cons e entries ih =>
      obtain ⟨k', m⟩ := e
      obtain ⟨hm, hrest⟩ := List.forall_mem_cons.mp hpositive
      simp only [addTo]
      split
      · exact List.forall_mem_cons.mpr ⟨hn, hpositive⟩
      · exact List.forall_mem_cons.mpr ⟨Nat.add_pos_left hm n, hrest⟩
      · exact List.forall_mem_cons.mpr ⟨hm, ih hrest⟩

theorem proper_ofList (ks : List κ) : (ofList ks).Proper := by
  induction ks using List.reverseRecOn with
  | nil => exact proper_empty
  | append_singleton ks k ih => exact ofList_append ks k ▸ ih.add k Nat.one_pos

end Order

variable [Std.LawfulEqOrd κ]

theorem Proper.nodup (h : t.Proper) : (t.entries.map (·.1)).Nodup := by
  refine List.pairwise_map.mpr (h.ascends.imp fun {a b} hlt heq => ?_)
  rw [heq, Std.ReflOrd.compare_self] at hlt
  cases hlt

theorem countIf_add (t : Tally κ) (k : κ) (n : Nat) (p : κ → Bool) :
    (t.add k n).countIf p = t.countIf p + if p k then n else 0 := by
  obtain ⟨entries⟩ := t
  simp only [countIf, add]
  induction entries with
  | nil => simp [addTo, countSum]
  | cons e entries ih =>
    obtain ⟨k', m⟩ := e
    simp only [addTo]
    split
    · simp only [List.map_cons, countSum_cons]
      omega
    · rename_i heq
      obtain rfl := Std.LawfulEqOrd.eq_of_compare heq
      simp only [List.map_cons, countSum_cons]
      split <;> omega
    · simp only [List.map_cons, countSum_cons, ih]
      omega

theorem countIf_ofList (ks : List κ) (p : κ → Bool) : (ofList ks).countIf p = ks.countP p := by
  induction ks using List.reverseRecOn with
  | nil => rfl
  | append_singleton ks k ih =>
    rw [ofList_append, countIf_add, ih, List.countP_append, List.countP_singleton]

variable [Std.TransOrd κ] [BEq κ] [LawfulBEq κ]

theorem countIf_of_mem (h : t.entries.Pairwise fun a b => compare a.1 b.1 = .lt)
    (hmem : (k, n) ∈ t.entries) : t.countIf (· == k) = n := by
  obtain ⟨before, after, heq⟩ := List.append_of_mem hmem
  obtain ⟨_, hafter, hbefore⟩ := List.pairwise_append.mp (heq ▸ h)
  have hne : ∀ {a b : κ}, compare a b = .lt → a ≠ b := by
    rintro a b hlt rfl
    rw [Std.ReflOrd.compare_self] at hlt
    cases hlt
  have hb := countSum_of_not_mem fun e he => hne (hbefore e he (k, n) List.mem_cons_self)
  have ha := countSum_of_not_mem fun e he => (hne ((List.pairwise_cons.mp hafter).1 e he)).symm
  simp only at ha hb
  simp [countIf, heq, countSum_append, countSum_cons, ha, hb]

theorem Proper.countIf_of_mem (h : t.Proper) (hmem : (k, n) ∈ t.entries) :
    t.countIf (· == k) = n :=
  Tally.countIf_of_mem h.ascends hmem

theorem Proper.mem_entries_iff (h : t.Proper) :
    (k, n) ∈ t.entries ↔ n = t.countIf (· == k) ∧ 0 < n := by
  constructor
  · intro hmem
    exact ⟨(h.countIf_of_mem hmem).symm, h.positive _ hmem⟩
  · rintro ⟨rfl, hpos⟩
    by_contra hnot
    refine Nat.ne_of_gt hpos (countSum_of_not_mem ?_)
    rintro ⟨k', m⟩ he rfl
    exact hnot ((h.countIf_of_mem he).symm ▸ he)

/-- What is made of the counts is made of the rows that have the counted keys, row by row. -/
theorem Proper.filterMap_perm {β ρ : Type} {f : κ × Nat → Option β} {g : ρ → Option β}
    {rows : List ρ} {key : ρ → κ} (h : t.Proper) (hkeys : (rows.map key).Nodup)
    (hzero : ∀ k, f (k, 0) = none) (hmem : ∀ e ∈ t.entries, (f e).isSome → e.1 ∈ rows.map key)
    (hrow : ∀ r ∈ rows, f (key r, t.countIf (· == key r)) = g r) :
    (t.entries.filterMap f).Perm (rows.filterMap g) := by
  let made : κ → Option β := fun k => f (k, t.countIf (· == k))
  have hentries : t.entries.filterMap f = (t.entries.map (·.1)).filterMap made := by
    rw [List.filterMap_map]
    refine List.filterMap_congr fun e he => ?_
    simp only [Function.comp, made, h.countIf_of_mem he]
  have hrows : rows.filterMap g = (rows.map key).filterMap made := by
    rw [List.filterMap_map]
    exact List.filterMap_congr fun r hr => (hrow r hr).symm
  have hsome : ∀ keys : List κ,
      keys.filterMap made = (keys.filter fun k => (made k).isSome).filterMap made := by
    intro keys
    rw [List.filterMap_filter]
    refine List.filterMap_congr fun k _ => ?_
    cases made k <;> rfl
  have hcounted : ∀ k, (made k).isSome → (k, t.countIf (· == k)) ∈ t.entries := by
    intro k hk
    refine h.mem_entries_iff.mpr ⟨rfl, Nat.pos_of_ne_zero fun hnone => ?_⟩
    simp [made, hnone, hzero] at hk
  rw [hentries, hrows, hsome, hsome (rows.map key)]
  refine List.Perm.filterMap made ((List.perm_ext_iff_of_nodup (h.nodup.filter _)
    (hkeys.filter _)).mpr fun k => ?_)
  simp only [List.mem_filter]
  constructor
  · rintro ⟨_, hk⟩
    exact ⟨hmem _ (hcounted k hk) hk, hk⟩
  · rintro ⟨_, hk⟩
    exact ⟨List.mem_map_of_mem (hcounted k hk), hk⟩

theorem count_eq_countIf (h : t.entries.Pairwise fun a b => compare a.1 b.1 = .lt) (k : κ) :
    t.count k = t.countIf (· == k) := by
  rw [count]
  split
  · rename_i e hfind
    have hsame := List.find?_some hfind
    obtain rfl := Std.LawfulEqOrd.eq_of_compare (beq_iff_eq.mp hsame)
    exact (countIf_of_mem h (List.mem_of_find?_eq_some hfind)).symm
  · rename_i hfind
    refine (countSum_of_not_mem ?_).symm
    rintro e he rfl
    have hnot := List.find?_eq_none.mp hfind e he
    rw [Std.ReflOrd.compare_self] at hnot
    exact hnot rfl

theorem Proper.count_eq (h : t.Proper) (k : κ) : t.count k = t.countIf (· == k) :=
  count_eq_countIf h.ascends k

theorem Proper.count_add (h : t.Proper) (n : Nat) (k key : κ) :
    (t.add k n).count key = t.count key + if k == key then n else 0 := by
  have hascends : (t.add k n).entries.Pairwise fun a b => compare a.1 b.1 = .lt :=
    pairwise_addTo h.ascends
  rw [count_eq_countIf hascends, h.count_eq, countIf_add]

theorem Proper.mem_entries_iff_count (h : t.Proper) :
    (k, n) ∈ t.entries ↔ n = t.count k ∧ 0 < n := by
  rw [h.count_eq, h.mem_entries_iff]

/-- A key that is there stays as it is when there are no more of it. -/
theorem Proper.add_zero (h : t.Proper) (hk : 0 < t.count k) : t.add k 0 = t := by
  have hmem := h.mem_entries_iff_count.mpr ⟨rfl, hk⟩
  generalize t.count k = m at hmem
  obtain ⟨entries⟩ := t
  have hascends := h.ascends
  simp only at hascends hmem
  refine congrArg Tally.mk ?_
  clear h hk
  induction entries with
  | nil => cases hmem
  | cons e entries ih =>
    obtain ⟨k', m'⟩ := e
    obtain ⟨hafter, hrest⟩ := List.pairwise_cons.mp hascends
    have htail : k ≠ k' → (k, m) ∈ entries := fun hne =>
      (List.mem_cons.mp hmem).resolve_left fun heq => hne (Prod.mk.inj heq).1
    simp only [addTo]
    split
    · rename_i hlt
      have hne : k ≠ k' := by
        rintro rfl
        rw [Std.ReflOrd.compare_self] at hlt
        cases hlt
      have hloop := Std.TransCmp.lt_trans hlt (hafter _ (htail hne))
      rw [Std.ReflOrd.compare_self] at hloop
      cases hloop
    · rfl
    · rename_i hgt
      have hne : k ≠ k' := by
        rintro rfl
        rw [Std.ReflOrd.compare_self] at hgt
        cases hgt
      rw [ih (htail hne) hrest]

theorem countSum_takeFrom (hnodup : (entries.map (·.1)).Nodup) (n : Nat) (k key : κ) :
    countSum ((takeFrom k n entries).map fun e => if e.1 == key then e.2 else 0) =
      countSum (entries.map fun e => if e.1 == key then e.2 else 0) -
        if k == key then n else 0 := by
  induction entries with
  | nil => simp [takeFrom, countSum]
  | cons e entries ih =>
    obtain ⟨k', m⟩ := e
    obtain ⟨hnot, hrest⟩ := List.nodup_cons.mp hnodup
    simp only [takeFrom]
    split
    · rename_i heq
      obtain rfl := Std.LawfulEqOrd.eq_of_compare (beq_iff_eq.mp heq)
      by_cases hkey : k = key
      · subst hkey
        have hnone := countSum_of_not_mem fun e he heq => hnot (List.mem_map.mpr ⟨e, he, heq⟩)
        split <;> simp only [List.map_cons, countSum_cons, hnone, beq_self_eq_true, if_true] <;> omega
      · have hkey : (k == key) = false := beq_eq_false_iff_ne.mpr hkey
        split <;> simp [countSum_cons, hkey]
    · rename_i hne
      rw [List.map_cons, List.map_cons, countSum_cons, countSum_cons, ih hrest]
      by_cases hkey : k = key
      · have hother : (k' == key) = false := by
          refine beq_eq_false_iff_ne.mpr ?_
          rintro rfl
          exact hne (beq_iff_eq.mpr (hkey ▸ Std.ReflOrd.compare_self))
        simp [hother]
      · simp [beq_eq_false_iff_ne.mpr hkey]

theorem Proper.count_take (h : t.Proper) (n : Nat) (k key : κ) :
    (t.take k n).count key = t.count key - if k == key then n else 0 := by
  rw [(h.take k n).count_eq, h.count_eq]
  exact countSum_takeFrom h.nodup n k key

/-- All counts together, read key by key. -/
theorem Proper.total_eq {keys : List κ} (h : t.Proper) (hnodup : keys.Nodup)
    (hall : ∀ k, 0 < t.count k → k ∈ keys) : t.total = countSum (keys.map t.count) := by
  have hcounted : t.total = countSum ((t.entries.map (·.1)).map t.count) := by
    rw [total, List.map_map]
    refine congrArg countSum (List.map_congr_left fun e he => ?_)
    exact (h.mem_entries_iff_count.mp he).1
  have hsome : countSum (keys.map t.count) =
      countSum ((keys.filter fun k => 0 < t.count k).map t.count) := by
    rw [countSum_filter]
    refine congrArg countSum (List.map_congr_left fun k _ => ?_)
    simp only [decide_eq_true_eq]
    split <;> omega
  have hperm : (t.entries.map (·.1)).Perm (keys.filter fun k => 0 < t.count k) := by
    refine (List.perm_ext_iff_of_nodup h.nodup (hnodup.filter _)).mpr fun k => ?_
    rw [List.mem_filter, decide_eq_true_eq, List.mem_map]
    constructor
    · rintro ⟨e, he, rfl⟩
      obtain ⟨hcount, hpos⟩ := h.mem_entries_iff_count.mp he
      exact ⟨hall _ (hcount ▸ hpos), hcount ▸ hpos⟩
    · rintro ⟨_, hpos⟩
      exact ⟨_, h.mem_entries_iff_count.mpr ⟨rfl, hpos⟩, rfl⟩
  rw [hcounted, hsome]
  exact (hperm.map t.count).sum_nat

end Add

end Tally
end CardBinder
