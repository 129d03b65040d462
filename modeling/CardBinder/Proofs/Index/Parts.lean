import CardBinder.Database.Index
import CardBinder.Proofs.Links
import Mathlib.Data.List.Sort

/-! The parts of an index: pairs that find rows, and links the other way round. -/

namespace CardBinder

/-! Pairs that find rows -/

/-- The pairs find what there is a row of, by the number of the row, and nothing else. -/
def Files {κ ι ρ : Type} [BEq κ] (pairs : List (κ × ι)) (key : ρ → κ) (id : ρ → ι)
    (rows : List ρ) : Prop :=
  ∀ k i, pairs.lookup k = some i ↔ ∃ row ∈ rows, key row = k ∧ id row = i

section Files
variable {κ ι ρ : Type} [BEq κ] [LawfulBEq κ] {pairs : List (κ × ι)} {key : ρ → κ} {id : ρ → ι}
  {rows : List ρ} {row : ρ} {k : κ}

omit [LawfulBEq κ] in
theorem files_nil : Files ([] : List (κ × ι)) key id [] := by
  simp [Files]

/-- A row is filed as it is made. -/
theorem Files.add (h : Files pairs key id rows) (hnew : pairs.lookup (key row) = none) :
    Files ((key row, id row) :: pairs) key id (rows ++ [row]) := by
  intro k i
  rw [List.lookup_cons]
  cases hk : k == key row with
  | true =>
    obtain rfl := eq_of_beq hk
    have hnone : ∀ row' ∈ rows, key row' ≠ key row := by
      intro row' hrow' heq
      have hfound := (h (key row) (id row')).mpr ⟨row', hrow', heq, rfl⟩
      rw [hnew] at hfound
      cases hfound
    constructor
    · intro hi
      exact ⟨row, List.mem_append_right _ (List.mem_singleton_self row), rfl, Option.some.inj hi⟩
    · rintro ⟨row', hrow', heq, rfl⟩
      rcases List.mem_append.mp hrow' with hrow' | hrow'
      · exact absurd heq (hnone row' hrow')
      · rw [List.mem_singleton.mp hrow']
  | false =>
    have hne : key row ≠ k := fun heq => by simp [heq] at hk
    rw [h k i]
    constructor
    · rintro ⟨row', hrow', hkey⟩
      exact ⟨row', List.mem_append_left _ hrow', hkey⟩
    · rintro ⟨row', hrow', heq, hid⟩
      rcases List.mem_append.mp hrow' with hrow' | hrow'
      · exact ⟨row', hrow', heq, hid⟩
      · rw [List.mem_singleton.mp hrow'] at heq
        exact absurd heq hne

/-- What is found is what going through the rows from the last one on finds. -/
theorem Files.lookup_eq (h : Files pairs key id rows) (k : κ) :
    pairs.lookup k = (rows.reverse.find? (key · == k)).map id := by
  cases hfind : rows.reverse.find? (key · == k) with
  | none =>
    rw [Option.map_none, Option.eq_none_iff_forall_ne_some]
    intro i hi
    obtain ⟨row, hrow, rfl, _⟩ := (h k i).mp hi
    have hno := List.find?_eq_none.mp hfind row (List.mem_reverse.mpr hrow)
    simp at hno
  | some row =>
    have hrow := List.mem_reverse.mp (List.mem_of_find?_eq_some hfind)
    have hkey : key row = k := by simpa using List.find?_some hfind
    exact (h k (id row)).mpr ⟨row, hrow, hkey, rfl⟩

/-- The rows filed anew are found as before. -/
theorem Files.anew (h : Files pairs key id rows) :
    Files (rows.map fun row => (key row, id row)).reverse key id rows := by
  intro k i
  constructor
  · intro hi
    obtain ⟨row, hrow, hpair⟩ := List.mem_map.mp (List.mem_reverse.mp (mem_of_lookup hi))
    obtain ⟨rfl, rfl⟩ := Prod.mk.inj hpair
    exact ⟨row, hrow, rfl, rfl⟩
  · rintro ⟨row, hrow, rfl, rfl⟩
    cases hi : (rows.map fun row => (key row, id row)).reverse.lookup (key row) with
    | none =>
      have hno := List.lookup_eq_none_iff.mp hi (key row, id row)
        (List.mem_reverse.mpr (List.mem_map_of_mem hrow))
      simp at hno
    | some i =>
      obtain ⟨row', hrow', hpair⟩ := List.mem_map.mp (List.mem_reverse.mp (mem_of_lookup hi))
      obtain ⟨hkey, rfl⟩ := Prod.mk.inj hpair
      -- two rows under one key have one number
      have hfound := (h (key row) (id row')).mpr ⟨row', hrow', hkey, rfl⟩
      rw [← hfound]
      exact (h (key row) (id row)).mpr ⟨row, hrow, rfl, rfl⟩

end Files

/-! Links the other way round -/

theorem BackLink.compare_eq (a b : BackLink) :
    compare a b = (compare a.target b.target).then (compare a.card.val b.card.val) := rfl

instance : Std.TransOrd BackLink :=
  inferInstanceAs (Std.TransCmp (compareLex (compareOn BackLink.target) (compareOn BackLink.card)))

instance : Std.LawfulEqOrd BackLink where
  eq_of_compare {a b} h := by
    rw [BackLink.compare_eq, Ordering.then_eq_eq, Nat.compare_eq_eq, Nat.compare_eq_eq] at h
    exact congrArg₂ BackLink.mk h.1 (RowId.ext h.2)

namespace BackTable
variable {t : BackTable} {card : CardId} {target : Nat}

def Sorted (t : BackTable) : Prop :=
  t.links.Pairwise fun a b => compare a b = .lt

/-- The links of both tables are the same. -/
def Transposes (t : BackTable) (links : LinkTable) : Prop :=
  ∀ card target, ⟨target, card⟩ ∈ t.links ↔ ⟨card, target⟩ ∈ links.links

theorem transposes_empty : empty.Transposes .empty := by
  simp [Transposes, empty, LinkTable.empty]

theorem Transposes.insert {links : LinkTable} (h : t.Transposes links) (card : CardId)
    (target : Nat) : (t.insert card target).Transposes (links.insert card target) := by
  intro card' target'
  rw [BackTable.insert, LinkTable.insert, LinkTable.mem_insertInto, LinkTable.mem_insertInto, h]
  simp only [BackLink.mk.injEq, Link.mk.injEq, and_comm]

theorem sorted_empty : empty.Sorted := List.Pairwise.nil

theorem Sorted.insert (h : t.Sorted) (card : CardId) (target : Nat) :
    (t.insert card target).Sorted :=
  LinkTable.pairwise_insertInto h

theorem sorted_ofLinks (ls : List Link) : (ofLinks ls).Sorted :=
  List.foldlRecOn (motive := Sorted) ls _ sorted_empty fun _ h l _ => h.insert l.card l.target

theorem transposes_ofLinks (ls : List Link) : (ofLinks ls).Transposes (.ofLinks ls) := by
  have hall : ∀ (t : BackTable) (links : LinkTable), t.Transposes links →
      (ls.foldl (fun t l => t.insert l.card l.target) t).Transposes
        (ls.foldl (fun t l => t.insert l.card l.target) links) := by
    induction ls with
    | nil => exact fun _ _ h => h
    | cons l ls ih => exact fun t links h => ih _ _ (h.insert l.card l.target)
  exact hall empty .empty transposes_empty

theorem mem_cards : card ∈ t.cards target ↔ ⟨target, card⟩ ∈ t.links := by
  rw [cards, List.mem_map]
  constructor
  · rintro ⟨l, hl, rfl⟩
    obtain ⟨hmem, htarget⟩ := List.mem_filter.mp hl
    rwa [← eq_of_beq htarget]
  · intro hmem
    exact ⟨_, List.mem_filter.mpr ⟨hmem, beq_self_eq_true target⟩, rfl⟩

theorem mem_reverse {links : LinkTable} :
    card ∈ links.reverse target ↔ ⟨card, target⟩ ∈ links.links := by
  rw [LinkTable.reverse, List.mem_map]
  constructor
  · rintro ⟨l, hl, rfl⟩
    obtain ⟨hmem, htarget⟩ := List.mem_filter.mp hl
    rwa [← eq_of_beq htarget]
  · intro hmem
    exact ⟨_, List.mem_filter.mpr ⟨hmem, beq_self_eq_true target⟩, rfl⟩

/-- The cards linked to a target are the same, whichever way round the links are looked through. -/
theorem cards_eq {links : LinkTable} (ht : t.Sorted) (hl : links.Sorted) (h : t.Transposes links)
    (target : Nat) : t.cards target = links.reverse target := by
  have hcards : (t.cards target).Pairwise fun a b => a.val < b.val := by
    refine List.pairwise_map.mpr (List.pairwise_filter.mpr (ht.imp ?_))
    intro a b hlt ha hb
    rw [BackLink.compare_eq, eq_of_beq ha, eq_of_beq hb] at hlt
    simpa [Nat.compare_eq_lt] using hlt
  have hreverse : (links.reverse target).Pairwise fun a b => a.val < b.val := by
    refine List.pairwise_map.mpr (List.pairwise_filter.mpr (hl.imp ?_))
    intro a b hlt ha hb
    rw [Link.Precedes, eq_of_beq ha, eq_of_beq hb] at hlt
    simpa using hlt
  have hirrefl : Std.Irrefl fun a b : CardId => a.val < b.val := ⟨fun a => Nat.lt_irrefl a.val⟩
  have hantisymm : Std.Antisymm fun a b : CardId => a.val < b.val :=
    ⟨fun a b hab hba => absurd hba (Nat.lt_asymm hab)⟩
  refine hcards.eq_of_mem_iff hreverse fun card => ?_
  rw [mem_cards, mem_reverse, h]

end BackTable

end CardBinder
