import CardBinder.Listing
import CardBinder.Proofs.Catalog.Entries
import CardBinder.Proofs.Operation.Copies
import CardBinder.Proofs.Supply.Shortfalls
import Mathlib.Data.String.Basic
import Mathlib.Order.Compare

/-! The contents of a card set as they are listed: a line for each printing it has copies of, by its
names. -/

namespace CardBinder

instance : Std.TransOrd PrintingName :=
  inferInstanceAs (Std.TransCmp
    (compareLex (compareOn PrintingName.name) (compareOn PrintingName.expansion)))

instance : Std.LawfulEqOrd PrintingName where
  eq_of_compare {a b} h := by
    obtain ⟨hname, hexpansion⟩ := eq_of_compareLex h
    cases a
    cases b
    exact congrArg₂ PrintingName.mk hname hexpansion

/-- By name, then by expansion; no expansion comes first. -/
def ContentLine.Precedes (a b : ContentLine) : Prop :=
  a.name < b.name ∨ a.name = b.name ∧ ∃ y ∈ b.expansion, ∀ x ∈ a.expansion, x < y

theorem compare_optional {x y : Option String} :
    compare x y = .lt ↔ ∃ b ∈ y, ∀ a ∈ x, a < b := by
  cases x with
  | none =>
    cases y with
    | none => simp
    | some b =>
      have hless : compare none (some b) = .lt := rfl
      simp [hless]
  | some a =>
    cases y with
    | none =>
      have hmore : compare (some a) none = .gt := rfl
      simp [hmore]
    | some b =>
      have hsome : compare (some a) (some b) = compare a b := rfl
      simp [hsome, compare_lt_iff_lt]

theorem PrintingName.compare_lt_iff {a b : PrintingName} : compare a b = .lt ↔
    a.name < b.name ∨ a.name = b.name ∧ ∃ y ∈ b.expansion, ∀ x ∈ a.expansion, x < y := by
  have hlex : compare a b = (compare a.name b.name).then (compare a.expansion b.expansion) := rfl
  rw [hlex, Ordering.then_eq_lt, compare_lt_iff_lt, compare_eq_iff_eq, compare_optional]

namespace Database
variable {db : Database} {set : CardSetId} {c : Card} {e : Option LookupEntry} {x : Copy} {n : Nat}

/-- The copies of a card set, counted by the names of their printings. -/
def namedCounts (db : Database) (set : CardSetId) : Tally PrintingName :=
  (db.printingCounts set).entries.foldl
    (fun t (printing, n) =>
      match db.printingName? printing with
      | some name => t.add name n
      | none => t) .empty

theorem contents_eq (db : Database) (set : CardSetId) : db.contents set =
    (db.namedCounts set).entries.map fun e => ⟨e.1.name, e.1.expansion, e.2⟩ := rfl

theorem proper_namedCounts : (db.namedCounts set).Proper := by
  refine Tally.proper_empty.foldl fun t e he ht => ?_
  obtain ⟨printing, n⟩ := e
  simp only
  split
  · exact ht.add _ (proper_printingCounts.positive _ he)
  · exact ht

/-- Names are counted as often as there are copies of printings with such names. -/
theorem countIf_namedCounts (p : PrintingName → Bool) : (db.namedCounts set).countIf p =
    (db.copiesOf set).countP fun c => (db.printingName? c.printing).any p := by
  rw [← countIf_printingCounts (fun printing => (db.printingName? printing).any p), namedCounts]
  refine (Tally.countIf_foldl (fun t e => ?_) _ .empty).trans (Nat.zero_add _)
  cases hname : db.printingName? e.1 with
  | none => simp [hname]
  | some name => simp [hname, Tally.countIf_add]

theorem mem_contents_iff {name : String} {expansion : Option String} :
    ⟨name, expansion, n⟩ ∈ db.contents set ↔
      n = (db.namedCounts set).countIf (· == ⟨name, expansion⟩) ∧ 0 < n := by
  rw [contents_eq, ← proper_namedCounts.mem_entries_iff, List.mem_map]
  constructor
  · rintro ⟨⟨⟨_, _⟩, _⟩, he, heq⟩
    cases heq
    exact he
  · exact fun he => ⟨_, he, rfl⟩

/-! Printings by their names -/

/-- A card of the catalog, and an expansion or none. -/
structure Listed (db : Database) (c : Card) (e : Option LookupEntry) : Prop where
  card : c ∈ db.cards
  expansion : ∀ x ∈ e, x ∈ db.lookupEntries .expansion

/-- How the contents of a card set are listed. -/
structure ListsContents (db : Database) (set : CardSetId) : Prop where
  ascends : (db.contents set).Pairwise ContentLine.Precedes
  positive : ∀ l ∈ db.contents set, 1 ≤ l.count
  total : countSum ((db.contents set).map (·.count)) = db.copies.countP (·.cardSet == set)
  lines : ∀ c e, db.Listed c e → ∀ n, ⟨c.name, e.map (·.name), n⟩ ∈ db.contents set ↔
    n = db.held ⟨set, c.id, e.map (·.id)⟩ ∧ 0 < n
  known : ∀ l ∈ db.contents set, ∃ c e, db.Listed c e ∧ l.name = c.name ∧
    l.expansion = e.map (·.name)

section Valid
variable (hv : db.Valid) (hp : db.InPlace)

include hp in
theorem Listed.expansionName (h : db.Listed c e) :
    db.expansionName (e.map (·.id)) = e.map (·.name) := by
  cases e with
  | none => rfl
  | some x => exact hp.lookupName_eq_some_iff.mpr ⟨x, h.expansion x rfl, rfl, rfl⟩

include hp in
theorem Listed.cardName (h : db.Listed c e) : db.cardName c.id = c.name := by
  rw [Database.cardName, hp.card?_eq_some_iff.mpr ⟨h.card, rfl⟩]

include hv in
/-- A printing is of a card and of an expansion or none. -/
theorem exists_listed {p : Printing} (hmem : p ∈ db.printings) :
    ∃ c e, db.Listed c e ∧ p.card = c.id ∧ p.expansion = e.map (·.id) := by
  obtain ⟨c, hc, hcard⟩ := hv.exists_card hmem
  cases hexpansion : p.expansion with
  | none => exact ⟨c, none, ⟨hc, by simp⟩, hcard.symm, rfl⟩
  | some id =>
    obtain ⟨x, hx, hid⟩ := (hv.printingsKnown p hmem).2 id hexpansion
    refine ⟨c, some x, ⟨hc, ?_⟩, hcard.symm, congrArg some (RowId.ext hid).symm⟩
    exact fun y hy => Option.mem_some.mp hy ▸ List.mem_of_getElem? hx

variable (hfiled : ∀ c ∈ db.cards, c.canonicalName = canonicalName c.name)
include hv hp hfiled

/-- Different printings have different names. -/
theorem Listed.eq_of_names {c' : Card} {e' : Option LookupEntry} (h : db.Listed c e)
    (h' : db.Listed c' e') (hname : c.name = c'.name)
    (hexpansion : e.map (·.name) = e'.map (·.name)) : c = c' ∧ e = e' := by
  constructor
  · refine List.inj_on_of_nodup_map hv.cardsOnce h.card h'.card ?_
    rw [hfiled c h.card, hfiled c' h'.card, hname]
  · rcases e with _ | x <;> rcases e' with _ | x'
    · rfl
    · cases hexpansion
    · cases hexpansion
    · exact congrArg some (hv.entry_eq_of_name hp (h.expansion x rfl) (h'.expansion x' rfl)
        (Option.some.inj hexpansion))

/-- A copy is of a card and an expansion if its printing has their names. -/
theorem holding?_eq_iff (h : db.Listed c e) (hx : x ∈ db.copies) :
    db.holding? x = some ⟨set, c.id, e.map (·.id)⟩ ↔
      x.cardSet = set ∧ db.printingName? x.printing = some ⟨c.name, e.map (·.name)⟩ := by
  obtain ⟨p, hprinting⟩ := Option.isSome_iff_exists.mp (hv.copyPrintings x hx)
  obtain ⟨hmem, _⟩ := hp.printing?_eq_some_iff.mp hprinting
  rw [holding?, printingName?, hprinting, Option.map_some, Option.map_some]
  simp only [Option.some.injEq, Holding.mk.injEq, PrintingName.mk.injEq]
  refine and_congr_right fun _ => ?_
  constructor
  · rintro ⟨hcard, hexpansion⟩
    rw [hcard, hexpansion]
    exact ⟨h.cardName hp, h.expansionName hp⟩
  · rintro ⟨hname, hnames⟩
    obtain ⟨c', e', h', hcard, hexpansion⟩ := exists_listed hv hmem
    rw [hcard, h'.cardName hp] at hname
    rw [hexpansion, h'.expansionName hp] at hnames
    obtain ⟨rfl, rfl⟩ := h'.eq_of_names hv hp hfiled h hname hnames
    exact ⟨hcard, hexpansion⟩

theorem countIf_namedCounts_eq (h : db.Listed c e) :
    (db.namedCounts set).countIf (· == ⟨c.name, e.map (·.name)⟩) =
      db.held ⟨set, c.id, e.map (·.id)⟩ := by
  rw [countIf_namedCounts, copiesOf, List.countP_filter, held]
  refine List.countP_congr fun x hx => ?_
  have hiff : db.holding? x = some ⟨set, c.id, e.map (·.id)⟩ ↔ _ :=
    holding?_eq_iff hv hp hfiled h hx
  cases hname : db.printingName? x.printing <;> simp [hname, hiff, and_comm]

omit hp hfiled in
/-- Every copy of the set is on some line. -/
theorem total_namedCounts : (db.namedCounts set).total = db.copies.countP (·.cardSet == set) := by
  have hall : (db.namedCounts set).total = (db.namedCounts set).countIf fun _ => true := by
    simp [Tally.total, Tally.countIf]
  rw [hall, countIf_namedCounts, copiesOf, List.countP_filter]
  refine List.countP_congr fun x hx => ?_
  obtain ⟨p, hprinting⟩ := Option.isSome_iff_exists.mp (hv.copyPrintings x hx)
  simp [printingName?, hprinting]

omit hfiled in
/-- A name is counted only for a printing. -/
theorem exists_listed_of_counted {name : PrintingName}
    (hcounted : 0 < (db.namedCounts set).countIf (· == name)) :
    ∃ c e, db.Listed c e ∧ name = ⟨c.name, e.map (·.name)⟩ := by
  rw [countIf_namedCounts] at hcounted
  obtain ⟨x, _, hname⟩ := List.countP_pos_iff.mp hcounted
  obtain ⟨hsome, heq⟩ := (Option.any_eq_true_iff_get _ _).mp hname
  have hname := (Option.some_get hsome).symm.trans (congrArg some (beq_iff_eq.mp heq))
  obtain ⟨p, hprinting, rfl⟩ := Option.map_eq_some_iff.mp hname
  obtain ⟨hmem, _⟩ := hp.printing?_eq_some_iff.mp hprinting
  obtain ⟨c, e, h, hcard, hexpansion⟩ := exists_listed hv hmem
  refine ⟨c, e, h, ?_⟩
  rw [hcard, hexpansion, h.cardName hp, h.expansionName hp]

/-- The contents of a set are its copies, a line for each printing of which there are any. -/
theorem contents_lists (set : CardSetId) : db.ListsContents set where
  ascends := by
    rw [contents_eq]
    exact List.pairwise_map.mpr
      (proper_namedCounts.ascends.imp PrintingName.compare_lt_iff.mp)
  positive l hl := (mem_contents_iff.mp hl).2
  total := by
    rw [← total_namedCounts hv, contents_eq, List.map_map]
    rfl
  lines c e h n := by
    rw [mem_contents_iff, countIf_namedCounts_eq hv hp hfiled h]
  known l hl := by
    obtain ⟨hcount, hpos⟩ := mem_contents_iff.mp hl
    obtain ⟨c, e, h, hname⟩ := exists_listed_of_counted hv hp (hcount ▸ hpos)
    obtain ⟨hcard, hexpansion⟩ := PrintingName.mk.inj hname
    exact ⟨c, e, h, hcard, hexpansion⟩

end Valid

/-- The pack in the binder: a plain dog and two dogs of the expansion. -/
theorem contents_lists_binder : binder.ListsContents ⟨0⟩ ∧
    binder.contents ⟨0⟩ = [⟨"Dog", none, 1⟩, ⟨"Dog", some "Jyhad", 2⟩] :=
  ⟨contents_lists valid_binder inPlace_binder (by decide +kernel) ⟨0⟩, by decide +kernel⟩

end Database
end CardBinder
