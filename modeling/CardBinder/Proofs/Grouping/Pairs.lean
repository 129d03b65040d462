import CardBinder.Grouping
import CardBinder.Proofs.Catalog.Load
import CardBinder.Proofs.Text.Cut
import CardBinder.Proofs.Text.Integer
import Mathlib.Data.List.Induction
import Mathlib.Order.Bounds.Basic

/-! Groups in pairs: the pairs that a group is in, and the groups whose pairs a card of any group shares. -/

namespace CardBinder
variable {db : Database} {a d : Card} {g : Int} {heading : String}

namespace Grouping

/-! Headings of pairs -/

theorem comma_notMem_toString (n : Int) : ',' ∉ (toString n).toList := by
  intro hcomma
  rcases Text.minus_or_isDigit_of_mem_toString hcomma with h | h <;> cases h

/-- The first number of a heading ends at its comma. -/
theorem pairHeading_injective : Function.Injective pairHeading := by
  intro low low' h
  have hcut : ∀ n : Int, Text.cutFirst ", " (pairHeading n) =
      some ("Groups " ++ toString n, toString (n + 1)) := by
    intro n
    refine Text.cutFirst_append rfl ?_
    rw [String.toList_append, List.mem_append]
    exact not_or.mpr ⟨by decide, comma_notMem_toString n⟩
  have hsame := (hcut low).symm.trans ((congrArg _ h).trans (hcut low'))
  have hfirst := (Prod.mk.inj (Option.some.inj hsame)).1
  exact Text.toString_injective ((String.append_right_inj _).mp hfirst)

/-! The largest group -/

theorem isGreatest_foldl_max (first : Int) (groups : List Int) :
    IsGreatest (insert first {g | g ∈ groups}) (groups.foldl max first) := by
  induction groups using List.reverseRecOn with
  | nil => simp [IsGreatest, upperBounds]
  | append_singleton groups g ih =>
    have hset : insert first {x | x ∈ groups ++ [g]} = insert g (insert first {x | x ∈ groups}) := by
      ext x
      simp only [List.mem_append, List.mem_singleton, Set.mem_insert_iff, Set.mem_ofPred_eq]
      tauto
    rw [hset, List.foldl_append, List.foldl_cons, List.foldl_nil, max_comm]
    exact ih.insert g

/-- The groups of the cards, and two. -/
def groupsOf (db : Database) : Set Int :=
  insert 2 {g | ∃ c ∈ db.cards, c.group = some g}

theorem isGreatest_lastGroup (db : Database) : IsGreatest (groupsOf db) (lastGroup db) := by
  have hgroups : groupsOf db = insert 2 {g | g ∈ db.cards.filterMap (·.group)} := by
    simp [groupsOf]
  rw [hgroups]
  exact isGreatest_foldl_max 2 _

/-! The pairs of a card -/

/-- A card of any group is in all pairs from the first to the last group. -/
theorem mem_groupPair_any (ha : a.group = some anyGroup) :
    heading ∈ headings db a .groupPair ↔
      ∃ low, (1 ≤ low ∧ low < lastGroup db) ∧ pairHeading low = heading := by
  simp only [headings, groupPairHeadings, ha, if_true, List.mem_map, List.mem_range]
  constructor
  · rintro ⟨i, hi, rfl⟩
    exact ⟨i + 1, by omega, rfl⟩
  · rintro ⟨low, hrange, rfl⟩
    exact ⟨(low - 1).toNat, by omega, congrArg pairHeading (by omega)⟩

theorem mem_groupPair (hd : d.group = some g) (hany : g ≠ anyGroup) :
    heading ∈ headings db d .groupPair ↔
      ∃ low, (low = g - 1 ∧ 1 < g ∨ low = g ∧ g < lastGroup db) ∧ pairHeading low = heading := by
  have hif : ∀ (p : Prop) [Decidable p] (low : Int),
      heading ∈ (if p then [pairHeading low] else []) ↔ p ∧ pairHeading low = heading := by
    intro p _ low
    split <;> simp_all [eq_comm]
  simp only [headings, groupPairHeadings, hd, if_neg hany, List.mem_append, hif]
  constructor
  · rintro (⟨hlow, rfl⟩ | ⟨hlast, rfl⟩)
    · exact ⟨g - 1, .inl ⟨rfl, hlow⟩, rfl⟩
    · exact ⟨g, .inr ⟨rfl, hlast⟩, rfl⟩
  · rintro ⟨low, ⟨rfl, hlow⟩ | ⟨rfl, hlast⟩, rfl⟩
    · exact .inl ⟨hlow, rfl⟩
    · exact .inr ⟨hlast, rfl⟩

/-- A group from the first on is in the pairs with its neighbours, as far as there are such groups. -/
theorem mem_groupPair_iff {last : Int} (hlast : IsGreatest (groupsOf db) last) (hcard : d ∈ db.cards)
    (hd : d.group = some g) (hfirst : 1 ≤ g) :
    heading ∈ headings db d .groupPair ↔
      ∃ low, (low = g - 1 ∨ low = g) ∧ 1 ≤ low ∧ low + 1 ≤ last ∧ pairHeading low = heading := by
  obtain rfl := hlast.unique (isGreatest_lastGroup db)
  have hle : g ≤ lastGroup db := hlast.2 (Set.mem_insert_of_mem _ ⟨d, hcard, hd⟩)
  rw [mem_groupPair hd (by rintro rfl; cases hfirst)]
  refine exists_congr fun low => ?_
  rw [← and_assoc, ← and_assoc]
  refine and_congr_left fun _ => ?_
  omega

/-! Cards of any group -/

/-- A card of any group stands under every pair of another card exactly when that card is not of a group
before the first; and a card of a group from the first on stands under the pairs with its neighbours. -/
theorem anyGroup_shares_iff (ha : a.group = some anyGroup) (hcard : d ∈ db.cards) :
    ((∀ heading ∈ headings db d .groupPair, heading ∈ headings db a .groupPair) ↔
        ∀ g ∈ d.group, 1 ≤ g ∨ g = anyGroup) ∧
      ∀ g ∈ d.group, 1 ≤ g → ∀ last, IsGreatest (groupsOf db) last →
        ∀ heading, heading ∈ headings db d .groupPair ↔
          ∃ low, (low = g - 1 ∨ low = g) ∧ 1 ≤ low ∧ low + 1 ≤ last ∧ pairHeading low = heading := by
  have hgreatest := isGreatest_lastGroup db
  refine ⟨⟨?_, ?_⟩, fun g hd hfirst last hlast _ => mem_groupPair_iff hlast hcard hd hfirst⟩
  · intro hshares g hd
    by_contra hbefore
    obtain ⟨hlow, hany⟩ := not_or.mp hbefore
    have htwo : 2 ≤ lastGroup db := hgreatest.2 (Set.mem_insert _ _)
    have hown : pairHeading g ∈ headings db d .groupPair :=
      (mem_groupPair hd hany).mpr ⟨g, .inr ⟨rfl, by omega⟩, rfl⟩
    obtain ⟨low, ⟨hfirst, _⟩, hsame⟩ := (mem_groupPair_any ha).mp (hshares _ hown)
    exact hlow (pairHeading_injective hsame ▸ hfirst)
  · intro hgroup heading hheading
    cases hd : d.group with
    | none => simp [headings, groupPairHeadings, hd] at hheading
    | some g =>
      rw [mem_groupPair_any ha]
      rcases hgroup g hd with hfirst | rfl
      · obtain ⟨low, _, hlow, hle, hsame⟩ :=
          (mem_groupPair_iff hgreatest hcard hd hfirst).mp hheading
        exact ⟨low, ⟨hlow, hle⟩, hsame⟩
      · exact (mem_groupPair_any hd).mp hheading

/-- Cards of the first group, of the third and of any. -/
def neighbours : Catalog where
  lookups := []
  cards := [{ name := "Dog", group := some 1 }, { name := "Cat", group := some 3 },
    { name := "Fox", group := some anyGroup }]

theorem anyGroup_shares_neighbours : ∃ db, Database.ofCatalog neighbours = .ok db ∧
    ∃ fox ∈ db.cards, ∃ cat ∈ db.cards, fox.group = some anyGroup ∧ cat.group = some 3 ∧
      (∀ heading ∈ headings db cat .groupPair, heading ∈ headings db fox .groupPair) ∧
      (∀ heading, heading ∈ headings db cat .groupPair ↔
        ∃ low, (low = 3 - 1 ∨ low = 3) ∧ 1 ≤ low ∧ low + 1 ≤ 3 ∧ pairHeading low = heading) ∧
      headings db cat .groupPair = ["Groups 2, 3"] ∧
      headings db fox .groupPair = ["Groups 1, 2", "Groups 2, 3"] := by
  obtain ⟨db, hdb⟩ : ∃ db, db = (Database.empty.loadCatalog neighbours).1 := ⟨_, rfl⟩
  have hload : Database.ofCatalog neighbours = .ok db :=
    hdb ▸ Database.ofCatalog_eq (n := 3) (by decide +kernel)
  have hlast : IsGreatest (groupsOf db) 3 := by
    have hthree : lastGroup db = 3 := hdb ▸ by decide +kernel
    exact hthree ▸ isGreatest_lastGroup db
  obtain ⟨fox, hfox, hany, hpairs⟩ : ∃ fox ∈ db.cards, fox.group = some anyGroup ∧
      headings db fox .groupPair = ["Groups 1, 2", "Groups 2, 3"] := hdb ▸ by decide +kernel
  obtain ⟨cat, hcat, hthird, hpair⟩ : ∃ cat ∈ db.cards, cat.group = some 3 ∧
      headings db cat .groupPair = ["Groups 2, 3"] := hdb ▸ by decide +kernel
  obtain ⟨hshares, hown⟩ := anyGroup_shares_iff hany hcat
  refine ⟨db, hload, fox, hfox, cat, hcat, hany, hthird, hshares.mpr ?_, ?_, hpair, hpairs⟩
  · intro g hg
    obtain rfl := Option.some.inj (hthird.symm.trans hg)
    exact .inl (by decide)
  · exact hown 3 hthird (by decide) 3 hlast

/-- Two cards, one of any group and one of a group before the first. -/
def strays : Catalog where
  lookups := []
  cards := [{ name := "Any", group := some anyGroup }, { name := "Nought", group := some 0 }]

theorem not_anyGroup_shares : ¬ ∀ catalog db, Database.ofCatalog catalog = .ok db →
    ∀ a ∈ db.cards, a.group = some anyGroup → ∀ d ∈ db.cards,
      ∀ heading ∈ headings db d .groupPair, heading ∈ headings db a .groupPair := by
  intro hall
  have hload : Database.ofCatalog strays = .ok (Database.empty.loadCatalog strays).1 :=
    Database.ofCatalog_eq (n := 2) (by decide +kernel)
  have hshares := hall strays _ hload
  revert hshares
  decide +kernel

end Grouping
end CardBinder
