import CardBinder.Ids
import Mathlib.Algebra.Order.BigOperators.Group.List
import Mathlib.Algebra.Order.Group.Nat
import Mathlib.Data.List.Nodup
import Mathlib.Data.List.Perm.Subperm

/-! Tables as lists of rows: rows numbered by their places, and rows whose numbers ascend below a counter. -/

namespace CardBinder

instance {t : TableName} : Std.TransOrd (RowId t) :=
  inferInstanceAs (Std.TransCmp (compareOn RowId.val))

instance {t : TableName} : Std.LawfulEqOrd (RowId t) :=
  ⟨fun h => RowId.ext (Std.LawfulEqOrd.eq_of_compare h)⟩

theorem mem_of_lookup {κ ι : Type} [BEq κ] [LawfulBEq κ] {pairs : List (κ × ι)} {k : κ} {i : ι}
    (h : pairs.lookup k = some i) : (k, i) ∈ pairs := by
  obtain ⟨before, after, rfl, _⟩ := List.lookup_eq_some_iff.mp h
  simp

variable {α : Type} {key : α → Nat} {rows rows' : List α} {next n : Nat} {r : α}

/-- Each row has its place as its number. -/
def Placed (key : α → Nat) (rows : List α) : Prop :=
  ∀ i r, rows[i]? = some r → key r = i

/-- Each row has the number that a new row gets at its place. -/
def Numbered (key : α → Nat) (rows : List α) : Prop :=
  ∀ i r, rows[i]? = some r → key r = i % idBound

/-- The place of a number holds a row with that number. -/
def Leads (key : α → Nat) (rows : List α) (n : Nat) : Prop :=
  ∃ r, rows[n]? = some r ∧ key r = n

/-- The numbers of the rows ascend and stay below the counter. -/
structure InOrder (key : α → Nat) (rows : List α) (next : Nat) : Prop where
  ascends : rows.Pairwise fun a b => key a < key b
  below : ∀ r ∈ rows, key r < next

/-- The numbers of a table after rows were dropped and then `n` new ones made. -/
def Continues (old : List Nat) (next n : Nat) (new : List Nat) : Prop :=
  ∃ kept, kept.Sublist old ∧ new = kept ++ List.range' next n

theorem numbered_nil : Numbered key [] := by
  intro i r h
  simp at h

theorem Numbered.lt (h : Numbered key rows) (hr : r ∈ rows) : key r < idBound := by
  obtain ⟨i, hi⟩ := List.mem_iff_getElem?.mp hr
  rw [h i r hi]
  exact Nat.mod_lt i (by decide)

theorem Leads.lt (hl : Leads key rows n) (h : Numbered key rows) : n < idBound := by
  obtain ⟨r, hr, rfl⟩ := hl
  exact h.lt (List.mem_of_getElem? hr)

/-- As long as a table has not run out of numbers, the number of a row is its place. -/
theorem Numbered.placed (h : Numbered key rows) (hfit : rows.length ≤ idBound) :
    Placed key rows := by
  intro i r hr
  obtain ⟨hlt, _⟩ := List.getElem?_eq_some_iff.mp hr
  rw [h i r hr, Nat.mod_eq_of_lt (by omega)]

/-- Numbers that have wrapped around still lead to a row, which is then an earlier one. -/
theorem Numbered.leads_place (h : Numbered key rows) {i : Nat} (hi : i < rows.length) :
    Leads key rows (i % idBound) := by
  have hle : i % idBound < rows.length := Nat.lt_of_le_of_lt (Nat.mod_le i idBound) hi
  refine ⟨rows[i % idBound], List.getElem?_eq_getElem hle, ?_⟩
  rw [h _ _ (List.getElem?_eq_getElem hle), Nat.mod_mod]

theorem Numbered.leads (h : Numbered key rows) (hr : r ∈ rows) : Leads key rows (key r) := by
  obtain ⟨i, hi⟩ := List.mem_iff_getElem?.mp hr
  obtain ⟨hlt, _⟩ := List.getElem?_eq_some_iff.mp hi
  rw [h i r hi]
  exact h.leads_place hlt

theorem Leads.append (h : Leads key rows n) (more : List α) : Leads key (rows ++ more) n := by
  obtain ⟨r, hr, hk⟩ := h
  obtain ⟨hlt, _⟩ := List.getElem?_eq_some_iff.mp hr
  exact ⟨r, by rw [List.getElem?_append_left hlt, hr], hk⟩

theorem Leads.modify (h : Leads key rows n) (f : α → α) (hf : ∀ x, key (f x) = key x) (i : Nat) :
    Leads key (rows.modify i f) n := by
  obtain ⟨r, hr, hk⟩ := h
  rw [Leads, List.getElem?_modify, hr]
  refine ⟨_, rfl, ?_⟩
  split <;> simp [hf, hk]

theorem Numbered.append (h : Numbered key rows) (hr : key r = rows.length % idBound) :
    Numbered key (rows ++ [r]) := by
  intro i x hx
  rcases Nat.lt_trichotomy i rows.length with hi | hi | hi
  · rw [List.getElem?_append_left hi] at hx
    exact h i x hx
  · subst i
    simp only [List.getElem?_concat_length, Option.some.injEq] at hx
    rw [← hx, hr]
  · have hlen : (rows ++ [r]).length ≤ i := by simp; omega
    simp [List.getElem?_eq_none hlen] at hx

theorem Numbered.modify (h : Numbered key rows) (f : α → α) (hf : ∀ x, key (f x) = key x)
    (n : Nat) : Numbered key (rows.modify n f) := by
  intro i x hx
  rw [List.getElem?_modify] at hx
  obtain ⟨y, hy, rfl⟩ := Option.map_eq_some_iff.mp hx
  have hi := h i y hy
  split <;> simp_all

/-- What rows are stored once by stays so when a row with something new is added. -/
theorem nodup_map_append {β : Type} {f : α → β} (h : (rows.map f).Nodup)
    (hnew : ∀ x ∈ rows, f x ≠ f r) : ((rows ++ [r]).map f).Nodup := by
  rw [List.map_append, List.map_singleton]
  refine List.nodup_append'.mpr ⟨h, List.nodup_singleton _, ?_⟩
  rw [List.disjoint_singleton, List.mem_map]
  rintro ⟨x, hx, heq⟩
  exact hnew x hx heq

theorem nodup_map_modify {β : Type} {f : α → α} {g : α → β} {i : Nat} (h : (rows.map g).Nodup)
    (hi : rows[i]? = some r) (hnew : ∀ x ∈ rows, g x = g (f r) → x = r) :
    ((rows.modify i f).map g).Nodup := by
  have hfree : ∀ j, j ≠ i → (rows.map g)[j]? ≠ some (g (f r)) := by
    intro j hj heq
    rw [List.getElem?_map] at heq
    obtain ⟨x, hx, hg⟩ := Option.map_eq_some_iff.mp heq
    rw [hnew x (List.mem_of_getElem? hx) hg, ← hi] at hx
    obtain ⟨hlt, _⟩ := List.getElem?_eq_some_iff.mp (hx.trans hi)
    have hsame : (rows.map g)[j]? = (rows.map g)[i]? := by
      rw [List.getElem?_map, List.getElem?_map, hx]
    exact hj ((List.getElem?_inj (by simpa using hlt) h).mp hsame)
  have hat : ∀ j, ((rows.modify i f).map g)[j]? =
      if j = i then some (g (f r)) else (rows.map g)[j]? := by
    intro j
    rw [List.getElem?_map, List.getElem?_modify, List.getElem?_map]
    by_cases hj : j = i
    · subst j
      simp [hi]
    · simp [hj, Ne.symm hj]
  rw [List.nodup_iff_getElem?_ne_getElem?]
  intro a b hab hb heq
  rw [hat, hat] at heq
  split at heq <;> split at heq
  · omega
  · exact hfree b (by omega) heq.symm
  · exact hfree a (by omega) heq
  · simp only [List.length_map, List.length_modify] at hb
    exact (List.nodup_iff_getElem?_ne_getElem?.mp h) a b hab (by simpa using hb) heq

/-- A search by what rows are stored once by finds the row that has it. -/
theorem find?_eq_some_iff_of_nodup {κ : Type} {f : α → κ} {k : κ} {p : α → Bool}
    (hn : (rows.map f).Nodup) (hp : ∀ x, p x ↔ f x = k) :
    rows.find? p = some r ↔ r ∈ rows ∧ f r = k := by
  constructor
  · intro h
    exact ⟨List.mem_of_find?_eq_some h, (hp r).mp (List.find?_some h)⟩
  · rintro ⟨hr, hk⟩
    obtain ⟨x, hx⟩ := Option.isSome_iff_exists.mp (List.find?_isSome.mpr ⟨r, hr, (hp r).mpr hk⟩)
    have heq : f x = f r := ((hp x).mp (List.find?_some hx)).trans hk.symm
    rw [hx, List.inj_on_of_nodup_map hn (List.mem_of_find?_eq_some hx) hr heq]

/-! Rows in order -/

theorem inOrder_nil : InOrder key [] next where
  ascends := List.Pairwise.nil
  below := by simp

/-- Rows that ascend are in order below some counter. -/
theorem exists_inOrder (h : rows.Pairwise fun a b => key a < key b) :
    ∃ next, InOrder key rows next := by
  refine ⟨(rows.map key).sum + 1, h, ?_⟩
  intro r hr
  exact Nat.lt_succ_of_le (List.le_sum_of_mem (List.mem_map_of_mem hr))

theorem Placed.getElem?_key (h : Placed key rows) (hr : r ∈ rows) : rows[key r]? = some r := by
  obtain ⟨i, hi⟩ := List.mem_iff_getElem?.mp hr
  rw [h i r hi, hi]

theorem Placed.inOrder (h : Placed key rows) : InOrder key rows rows.length where
  ascends := by
    refine List.pairwise_iff_getElem.mpr fun i j hi hj hij => ?_
    rw [h i _ (List.getElem?_eq_getElem hi), h j _ (List.getElem?_eq_getElem hj)]
    exact hij
  below r hr := by
    obtain ⟨i, hi⟩ := List.mem_iff_getElem?.mp hr
    obtain ⟨hlt, _⟩ := List.getElem?_eq_some_iff.mp hi
    exact h i r hi ▸ hlt

theorem InOrder.nodup (h : InOrder key rows next) : (rows.map key).Nodup :=
  (List.pairwise_map.mpr h.ascends).imp fun hlt => Nat.ne_of_lt hlt

/-- There are at most as many rows as numbers below the counter. -/
theorem InOrder.length_le (h : InOrder key rows next) : rows.length ≤ next := by
  have hsub : rows.map key ⊆ List.range next := by
    intro i hi
    obtain ⟨r, hr, rfl⟩ := List.mem_map.mp hi
    exact List.mem_range.mpr (h.below r hr)
  simpa using (h.nodup.subperm hsub).length_le

/-- Rows in order have different numbers. -/
theorem InOrder.inj (h : InOrder key rows next) {a b : α} (ha : a ∈ rows) (hb : b ∈ rows)
    (he : key a = key b) : a = b :=
  List.inj_on_of_nodup_map h.nodup ha hb he

theorem InOrder.lt_of_getElem? (h : InOrder key rows next) {i j : Nat} {a b : α}
    (ha : rows[i]? = some a) (hb : rows[j]? = some b) (hk : key a < key b) : i < j := by
  obtain ⟨hi, rfl⟩ := List.getElem?_eq_some_iff.mp ha
  obtain ⟨hj, rfl⟩ := List.getElem?_eq_some_iff.mp hb
  have hpair := List.pairwise_iff_getElem.mp h.ascends
  rcases Nat.lt_trichotomy i j with hij | hij | hij
  · exact hij
  · subst j
    omega
  · have := hpair j i hj hi hij
    omega

theorem map_modify_of_key {β : Type} {g : α → β} (f : α → α) (hf : ∀ x, g (f x) = g x)
    (n : Nat) : (rows.modify n f).map g = rows.map g := by
  apply List.ext_getElem?
  intro i
  rw [List.getElem?_map, List.getElem?_map, List.getElem?_modify]
  cases rows[i]? with
  | none => rfl
  | some x =>
    by_cases hi : n = i <;> simp [hi, hf]

/-! Numbers given out by a counter -/

theorem Continues.refl {old : List Nat} : Continues old next 0 old :=
  ⟨old, List.Sublist.refl old, (List.append_nil old).symm⟩

theorem Continues.drop {old mid new : List Nat} (h : Continues old next 0 mid)
    (hs : new.Sublist mid) : Continues old next 0 new := by
  obtain ⟨kept, hkept, rfl⟩ := h
  rw [List.range'_zero, List.append_nil] at hs
  exact ⟨new, hs.trans hkept, (List.append_nil new).symm⟩

theorem Continues.more {old new : List Nat} {m : Nat} (h : Continues old next m new) (n : Nat) :
    Continues old next (m + n) (new ++ List.range' (next + m) n) := by
  obtain ⟨kept, hkept, rfl⟩ := h
  exact ⟨kept, hkept, by rw [List.append_assoc, List.range'_append_1]⟩

/-- New numbers keep the order. -/
theorem InOrder.continues (h : InOrder key rows next)
    (hc : Continues (rows.map key) next n (rows'.map key)) : InOrder key rows' (next + n) := by
  obtain ⟨kept, hkept, hnew⟩ := hc
  have hbelow : ∀ i ∈ kept, i < next := by
    intro i hi
    obtain ⟨r, hr, rfl⟩ := List.mem_map.mp (hkept.subset hi)
    exact h.below r hr
  have hascends : (kept ++ List.range' next n).Pairwise (· < ·) := by
    refine List.pairwise_append.mpr
      ⟨(List.pairwise_map.mpr h.ascends).sublist hkept, List.pairwise_lt_range', ?_⟩
    intro a ha b hb
    have := hbelow a ha
    have := List.mem_range'_1.mp hb
    omega
  rw [← hnew] at hascends
  refine ⟨List.pairwise_map.mp hascends, ?_⟩
  intro r hr
  have hmem : key r ∈ kept ++ List.range' next n := hnew ▸ List.mem_map_of_mem hr
  rcases List.mem_append.mp hmem with hk | hk
  · exact Nat.lt_of_lt_of_le (hbelow _ hk) (Nat.le_add_right next n)
  · exact (List.mem_range'_1.mp hk).2

end CardBinder
