import CardBinder.Grouping
import CardBinder.Proofs.Rows
import Mathlib.Data.List.Induction

/-! Grouped cards: headings ascend, no group is empty, and under each heading stand the cards that have
it, in the order in which they were given. -/

namespace CardBinder
variable {gs : List CardGroup} {h h' : Option String} {card : CardId} {db : Database}
  {grouping : Grouping}

theorem nodup_eraseDups {α : Type} [BEq α] [LawfulBEq α] (xs : List α) : xs.eraseDups.Nodup := by
  match xs with
  | [] => exact List.nodup_nil
  | x :: xs =>
    rw [List.eraseDups_cons, List.nodup_cons]
    exact ⟨by simp [List.mem_eraseDups], nodup_eraseDups _⟩
termination_by xs.length
decreasing_by exact Nat.lt_succ_of_le (List.length_filter_le _ _)

theorem ne_of_compare_lt (hlt : compare h h' = .lt) : h' ≠ h := by
  rintro rfl
  simp at hlt

namespace CardGroup

/-- The cards under a heading; none where no group has it. -/
def under (heading : Option String) : List CardGroup → List CardId
  | [] => []
  | g :: gs => if g.heading = heading then g.cards else under heading gs

/-- The headings ascend, no heading first. -/
def Sorted (gs : List CardGroup) : Prop :=
  gs.Pairwise fun a b => compare a.heading b.heading = .lt

theorem under_eq_nil (hfree : ∀ g ∈ gs, g.heading ≠ h) : under h gs = [] := by
  induction gs with
  | nil => rfl
  | cons g gs ih =>
    obtain ⟨hg, hgs⟩ := List.forall_mem_cons.mp hfree
    rw [under, if_neg hg, ih hgs]

theorem heading_of_mem_place {g : CardGroup} (hg : g ∈ place h card gs) :
    g.heading = h ∨ ∃ g' ∈ gs, g'.heading = g.heading := by
  induction gs with
  | nil =>
    obtain rfl := List.mem_singleton.mp hg
    exact Or.inl rfl
  | cons g' gs ih =>
    rw [place] at hg
    split at hg
    · rcases List.mem_cons.mp hg with rfl | hg
      · exact Or.inl rfl
      · exact Or.inr ⟨g, hg, rfl⟩
    · rcases List.mem_cons.mp hg with rfl | hg
      · exact Or.inr ⟨g', List.mem_cons_self, rfl⟩
      · exact Or.inr ⟨g, List.mem_cons_of_mem g' hg, rfl⟩
    · rcases List.mem_cons.mp hg with rfl | hg
      · exact Or.inr ⟨g, List.mem_cons_self, rfl⟩
      · exact (ih hg).imp_right fun ⟨x, hx, hxg⟩ => ⟨x, List.mem_cons_of_mem g' hx, hxg⟩

theorem Sorted.place (hs : Sorted gs) (h : Option String) (card : CardId) :
    Sorted (place h card gs) := by
  induction gs with
  | nil => exact List.pairwise_singleton _ _
  | cons g gs ih =>
    obtain ⟨hg, hgs⟩ := List.pairwise_cons.mp hs
    rw [CardGroup.place]
    split
    · rename_i hlt
      refine List.pairwise_cons.mpr ⟨List.forall_mem_cons.mpr ⟨hlt, fun g' hg' => ?_⟩, hs⟩
      exact Std.TransCmp.lt_trans hlt (hg g' hg')
    · exact List.pairwise_cons.mpr ⟨hg, hgs⟩
    · rename_i hgt
      refine List.pairwise_cons.mpr ⟨fun g' hg' => ?_, ih hgs⟩
      rcases heading_of_mem_place hg' with heq | ⟨x, hx, heq⟩
      · rw [heq]
        exact Std.OrientedCmp.gt_iff_lt.mp hgt
      · exact heq ▸ hg x hx

/-- A card is put at the end of its group and changes no other. -/
theorem Sorted.under_place (hs : Sorted gs) :
    under h' (CardGroup.place h card gs) =
      if h = h' then under h' gs ++ [card] else under h' gs := by
  induction gs with
  | nil => simp [CardGroup.place, under]
  | cons g gs ih =>
    obtain ⟨hg, hgs⟩ := List.pairwise_cons.mp hs
    rw [CardGroup.place]
    split
    · rename_i hlt
      -- The new group comes first, and all headings behind it are greater.
      have hfree : under h (g :: gs) = [] := by
        refine under_eq_nil (List.forall_mem_cons.mpr ⟨?_, fun g' hg' => ?_⟩)
        · exact ne_of_compare_lt hlt
        · exact ne_of_compare_lt (Std.TransCmp.lt_trans hlt (hg g' hg'))
      rw [under]
      split
      · rename_i heq
        rw [← heq, hfree, List.nil_append]
      · rfl
    · rename_i heq
      obtain rfl := Std.LawfulEqOrd.eq_of_compare heq
      simp only [under]
      split <;> rfl
    · rename_i hgt
      have hne : g.heading ≠ h := by
        rintro rfl
        simp at hgt
      simp only [under, ih hgs]
      by_cases hh : g.heading = h'
      · subst h'
        simp [Ne.symm hne]
      · simp [hh]

/-- A group is what stands under its heading. -/
theorem Sorted.under_heading (hs : Sorted gs) {g : CardGroup} (hg : g ∈ gs) :
    under g.heading gs = g.cards := by
  induction gs with
  | nil => cases hg
  | cons x gs ih =>
    obtain ⟨hx, hgs⟩ := List.pairwise_cons.mp hs
    rcases List.mem_cons.mp hg with rfl | hg
    · rw [under, if_pos rfl]
    · rw [under, if_neg (ne_of_compare_lt (hx g hg)).symm, ih hgs hg]

/-- The headings that there are ascend. -/
theorem Sorted.ascends (hs : Sorted gs) : (gs.filterMap (·.heading)).Pairwise (· < ·) := by
  refine List.pairwise_filterMap.mpr (hs.imp ?_)
  intro a b hlt h ha h' hb
  rw [ha, hb] at hlt
  exact compareOfLessAndEq_eq_lt.mp hlt

/-- Only the first group may be without a heading. -/
theorem Sorted.isSome_heading (hs : Sorted gs) : ∀ g ∈ gs.tail, g.heading.isSome := by
  cases gs with
  | nil => simp
  | cons first gs =>
    intro g hg
    have hlt := (List.pairwise_cons.mp hs).1 g hg
    by_contra hnone
    rw [Option.not_isSome_iff_eq_none.mp hnone] at hlt
    cases hfirst : first.heading <;> simp [hfirst] at hlt

/-- Where cards stand under a heading, there is a group with it. -/
theorem exists_group (hcard : card ∈ under h gs) : ∃ g ∈ gs, g.heading = h ∧ card ∈ g.cards := by
  induction gs with
  | nil => cases hcard
  | cons g gs ih =>
    rw [under] at hcard
    split at hcard
    · rename_i heq
      exact ⟨g, List.mem_cons_self, heq, hcard⟩
    · obtain ⟨g', hg', hfound⟩ := ih hcard
      exact ⟨g', List.mem_cons_of_mem g hg', hfound⟩

theorem ne_nil_place (hn : ∀ g ∈ gs, g.cards ≠ []) : ∀ g ∈ place h card gs, g.cards ≠ [] := by
  induction gs with
  | nil => simp [place]
  | cons g gs ih =>
    obtain ⟨hg, hgs⟩ := List.forall_mem_cons.mp hn
    rw [place]
    split
    · exact List.forall_mem_cons.mpr ⟨by simp, hn⟩
    · exact List.forall_mem_cons.mpr ⟨by simp, hgs⟩
    · exact List.forall_mem_cons.mpr ⟨hg, ih hgs⟩

end CardGroup

namespace Database
open CardGroup

/-- A known card has the heading, or has no heading at all. -/
def standsUnder (db : Database) (grouping : Grouping) (heading : Option String) (card : CardId) :
    Bool :=
  (db.card? card).any fun c =>
    match heading with
    | none => (grouping.headings db c).isEmpty
    | some heading => (grouping.headings db c).contains heading

theorem under_foldl_place {headings : List String} (hn : headings.Nodup) (hs : Sorted gs)
    (card : CardId) (h : Option String) :
    Sorted (headings.foldl (fun gs h => place (some h) card gs) gs) ∧
      under h (headings.foldl (fun gs h => place (some h) card gs) gs) =
        if ∃ heading ∈ headings, some heading = h then under h gs ++ [card] else under h gs := by
  induction headings generalizing gs with
  | nil => simpa using hs
  | cons heading headings ih =>
    obtain ⟨hfree, hn⟩ := List.nodup_cons.mp hn
    obtain ⟨hsorted, hunder⟩ := ih hn (hs.place (some heading) card)
    refine ⟨hsorted, ?_⟩
    rw [List.foldl_cons, hunder, hs.under_place]
    by_cases heq : some heading = h
    · subst h
      simp [hfree]
    · simp [heq]

/-- One more card stands under each of its headings, once, after the cards before it. -/
theorem under_placeCard (hs : Sorted gs) :
    Sorted (db.placeCard grouping gs card) ∧
      under h (db.placeCard grouping gs card) =
        if db.standsUnder grouping h card then under h gs ++ [card] else under h gs := by
  rw [placeCard, standsUnder]
  cases hcard : db.card? card with
  | none => simpa using hs
  | some c =>
    have hmem : ∀ s, s ∈ (grouping.headings db c).eraseDups ↔ s ∈ grouping.headings db c :=
      fun s => List.mem_eraseDups
    simp only [Option.any_some]
    split
    · rename_i hnil
      have hnone : grouping.headings db c = [] :=
        List.eq_nil_iff_forall_not_mem.mpr fun s hs => by simpa [hnil] using (hmem s).mpr hs
      refine ⟨hs.place none card, ?_⟩
      rw [hs.under_place]
      cases h <;> simp [hnone]
    · rename_i hne
      obtain ⟨hsorted, hunder⟩ := under_foldl_place
        (nodup_eraseDups (grouping.headings db c)) hs card h
      refine ⟨hsorted, ?_⟩
      rw [hunder]
      cases h with
      | none =>
        have hsome : grouping.headings db c ≠ [] := by
          intro hnil
          exact hne (by simp [hnil])
        simp [hsome]
      | some heading => simp

theorem ne_nil_placeCard (hn : ∀ g ∈ gs, g.cards ≠ []) :
    ∀ g ∈ db.placeCard grouping gs card, g.cards ≠ [] := by
  rw [placeCard]
  cases db.card? card with
  | none => exact hn
  | some c =>
    simp only
    split
    · exact ne_nil_place hn
    · exact List.foldlRecOn (motive := fun gs : List CardGroup => ∀ g ∈ gs, g.cards ≠ [])
        _ _ hn fun _ h _ _ => ne_nil_place h

/-- The groups of any cards: under each heading stand those of them that have it. -/
theorem groupCards_spec (db : Database) (grouping : Grouping) (cards : List CardId) :
    Sorted (db.groupCards grouping cards) ∧
      (∀ g ∈ db.groupCards grouping cards, g.cards ≠ []) ∧
      ∀ h, under h (db.groupCards grouping cards) = cards.filter (db.standsUnder grouping h) := by
  induction cards using List.reverseRecOn with
  | nil => exact ⟨List.Pairwise.nil, by simp [groupCards], fun _ => rfl⟩
  | append_singleton cards card ih =>
    obtain ⟨hs, hn, hunder⟩ := ih
    have hlast : db.groupCards grouping (cards ++ [card]) =
        db.placeCard grouping (db.groupCards grouping cards) card := by
      rw [groupCards, List.foldl_append]
      rfl
    rw [hlast]
    refine ⟨(under_placeCard (h := none) hs).1, ne_nil_placeCard hn, fun h => ?_⟩
    rw [(under_placeCard hs).2, hunder, List.filter_append]
    split
    · rename_i hstands
      simp [hstands]
    · rename_i hstands
      simp [hstands]

/-- Cards under their headings: none is lost, invented or moved. -/
structure Arranges (db : Database) (grouping : Grouping) (cards : List CardId)
    (groups : List CardGroup) : Prop where
  ascends : (groups.filterMap (·.heading)).Pairwise (· < ·)
  unheadedFirst : ∀ g ∈ groups.tail, g.heading.isSome
  filled : ∀ g ∈ groups, g.cards ≠ []
  exact : ∀ g ∈ groups, g.cards = cards.filter (db.standsUnder grouping g.heading)
  complete : ∀ card ∈ cards, ∀ h, db.standsUnder grouping h card → ∃ g ∈ groups, g.heading = h
  known : ∀ card ∈ cards, (db.card? card).isSome → ∃ g ∈ groups, card ∈ g.cards

/-- A known card has a heading or is without one. -/
theorem exists_standsUnder (hknown : (db.card? card).isSome) :
    ∃ h, db.standsUnder grouping h card := by
  obtain ⟨c, hc⟩ := Option.isSome_iff_exists.mp hknown
  simp only [standsUnder, hc, Option.any_some]
  cases hheadings : grouping.headings db c with
  | nil => exact ⟨none, by simp [hheadings]⟩
  | cons heading headings => exact ⟨some heading, by simp [hheadings]⟩

/-- Grouping puts every card of the list that is known under each of its headings, once each time it is
listed, or with those that have none, and leaves the order as it is. -/
theorem groupCards_arranges (db : Database) (grouping : Grouping) (cards : List CardId) :
    db.Arranges grouping cards (db.groupCards grouping cards) := by
  obtain ⟨hs, hfilled, hunder⟩ := groupCards_spec db grouping cards
  have hgroup : ∀ card ∈ cards, ∀ h, db.standsUnder grouping h card →
      ∃ g ∈ db.groupCards grouping cards, g.heading = h ∧ card ∈ g.cards := by
    intro card hcard h hstands
    have hmem := List.mem_filter.mpr ⟨hcard, hstands⟩
    exact exists_group (hunder h ▸ hmem)
  refine ⟨hs.ascends, hs.isSome_heading, hfilled, ?_, ?_, ?_⟩
  · intro g hg
    rw [← hunder, hs.under_heading hg]
  · intro card hcard h hstands
    obtain ⟨g, hg, hheading, _⟩ := hgroup card hcard h hstands
    exact ⟨g, hg, hheading⟩
  · intro card hcard hknown
    obtain ⟨h, hstands⟩ := exists_standsUnder hknown
    obtain ⟨g, hg, _, hin⟩ := hgroup card hcard h hstands
    exact ⟨g, hg, hin⟩

end Database
end CardBinder
