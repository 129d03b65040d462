import CardBinder.Proofs.Database.Valid
import CardBinder.Proofs.Tally
import CardBinder.Supply

/-! What the shortfalls of a parent set count: the copies that its children hold and those it has itself. -/

namespace CardBinder

namespace Database
variable {db : Database} {parent set : CardSetId} {children : List CardSetId} {card : CardId}

/-- The card that a copy is of. -/
def cardOf (db : Database) (c : Copy) : Option CardId :=
  (db.printing? c.printing).map (·.card)

/-- The copies that the children hold together; those of a child listed twice are there twice. -/
def demand (db : Database) (children : List CardSetId) : List Copy :=
  children.flatMap db.copiesOf

/-- What is missing, if more is needed than there is. -/
def lack? (card : String) (expansion : Option String) (needed available : Nat) :
    Option Shortfall :=
  if needed > available then some ⟨card, expansion, needed, available⟩ else none

/-- What is missing of a printing of a known expansion. -/
def printingLack? (db : Database) (parent : CardSetId) (children : List CardSetId)
    (p : Printing) : Option Shortfall :=
  if p.expansion.isSome then
    lack? (db.cardName p.card) (db.expansionName p.expansion)
      ((db.demand children).countP (·.printing == p.id))
      ((db.copiesOf parent).countP (·.printing == p.id))
  else none

/-- What is missing of a card over all its printings. -/
def cardLack? (db : Database) (parent : CardSetId) (children : List CardSetId) (c : Card) :
    Option Shortfall :=
  lack? c.name none ((db.demand children).countP (db.cardOf · == some c.id))
    ((db.copiesOf parent).countP (db.cardOf · == some c.id))

/-- All that is missing. -/
def lacks (db : Database) (parent : CardSetId) (children : List CardSetId) : List Shortfall :=
  db.printings.filterMap (db.printingLack? parent children) ++
    db.cards.filterMap (db.cardLack? parent children)

theorem lack?_eq_none_iff {name : String} {expansion : Option String} {needed available : Nat} :
    lack? name expansion needed available = none ↔ needed ≤ available := by
  rw [lack?]
  split <;> simp_all

theorem printingLack?_eq_none_iff {p : Printing} : db.printingLack? parent children p = none ↔
    (p.expansion.isSome → (db.demand children).countP (·.printing == p.id) ≤
      (db.copiesOf parent).countP (·.printing == p.id)) := by
  cases h : p.expansion <;> simp [printingLack?, lack?_eq_none_iff, h]

theorem cardLack?_eq_none_iff {c : Card} : db.cardLack? parent children c = none ↔
    (db.demand children).countP (db.cardOf · == some c.id) ≤
      (db.copiesOf parent).countP (db.cardOf · == some c.id) :=
  lack?_eq_none_iff

/-! Tallies of copies -/

theorem proper_printingCounts : (db.printingCounts set).Proper :=
  Tally.proper_ofList _

theorem countIf_printingCounts (p : PrintingId → Bool) :
    (db.printingCounts set).countIf p = (db.copiesOf set).countP fun c => p c.printing := by
  rw [printingCounts, Tally.countIf_ofList, List.countP_map]
  rfl

theorem proper_wantedCopies : (db.wantedCopies children).Proper :=
  Tally.proper_empty.foldl fun _ _ _ h =>
    h.foldl fun _ e he h => h.add e.1 (proper_printingCounts.positive e he)

theorem countIf_wantedCopies (p : PrintingId → Bool) :
    (db.wantedCopies children).countIf p = (db.demand children).countP fun c => p c.printing := by
  have hdemand : (db.demand children).countP (fun c => p c.printing) =
      countSum (children.map fun child => (db.printingCounts child).countIf p) := by
    rw [demand, List.countP_flatMap]
    simp only [countIf_printingCounts]
    rfl
  rw [hdemand, wantedCopies]
  refine (Tally.countIf_foldl (fun t child => ?_) children .empty).trans (Nat.zero_add _)
  exact Tally.countIf_foldl (fun t e => Tally.countIf_add t e.1 e.2 p) _ t

theorem proper_cardTotals {counts : Tally PrintingId} (h : counts.Proper) :
    (db.cardTotals counts).Proper := by
  refine Tally.proper_empty.foldl fun t e he ht => ?_
  obtain ⟨k, n⟩ := e
  simp only
  split
  · exact ht.add _ (h.positive _ he)
  · exact ht

theorem countIf_cardTotals (counts : Tally PrintingId) (p : CardId → Bool) :
    (db.cardTotals counts).countIf p =
      counts.countIf fun k => ((db.printing? k).map (·.card)).any p := by
  rw [cardTotals]
  refine (Tally.countIf_foldl (fun t e => ?_) counts.entries .empty).trans (Nat.zero_add _)
  cases h : db.printing? e.1 with
  | none => simp [h]
  | some row => simp [h, Tally.countIf_add]

theorem countIf_cardTotals_printingCounts :
    (db.cardTotals (db.printingCounts set)).countIf (· == card) =
      (db.copiesOf set).countP (db.cardOf · == some card) := by
  rw [countIf_cardTotals, countIf_printingCounts]
  refine List.countP_congr fun c _ => ?_
  cases h : db.printing? c.printing <;> simp [cardOf, h]

theorem countIf_cardTotals_wantedCopies :
    (db.cardTotals (db.wantedCopies children)).countIf (· == card) =
      (db.demand children).countP (db.cardOf · == some card) := by
  rw [countIf_cardTotals, countIf_wantedCopies]
  refine List.countP_congr fun c _ => ?_
  cases h : db.printing? c.printing <;> simp [cardOf, h]

/-! The shortfalls -/

theorem printingShortfalls_perm (hp : db.InPlace) :
    ((db.wantedCopies children).entries.filterMap
      (db.printingShortfall? (db.printingCounts parent))).Perm
        (db.printings.filterMap (db.printingLack? parent children)) := by
  refine proper_wantedCopies.filterMap_perm hp.printingIds_nodup ?_ ?_ ?_
  · intro k
    cases hk : db.printing? k with
    | none => simp [printingShortfall?, hk]
    | some p => simp [printingShortfall?, hk]
  · intro e _ hsome
    cases hk : db.printing? e.1 with
    | none => simp [printingShortfall?, hk] at hsome
    | some p =>
      obtain ⟨hp, heq⟩ := hp.printing?_eq_some_iff.mp hk
      exact heq ▸ List.mem_map_of_mem hp
  · intro p hmem
    rw [countIf_wantedCopies]
    simp only [printingShortfall?, hp.printing?_eq_some_iff.mpr ⟨hmem, rfl⟩,
      proper_printingCounts.count_eq, countIf_printingCounts]
    cases hexp : p.expansion <;> simp [printingLack?, lack?, hexp]

theorem cardShortfalls_perm (hv : db.Valid) (hp : db.InPlace) :
    ((db.cardTotals (db.wantedCopies children)).entries.filterMap
      (db.cardShortfall? (db.cardTotals (db.printingCounts parent)))).Perm
        (db.cards.filterMap (db.cardLack? parent children)) := by
  have hproper : (db.cardTotals (db.wantedCopies children)).Proper :=
    proper_cardTotals proper_wantedCopies
  refine hproper.filterMap_perm hp.cardIds_nodup ?_ ?_ ?_
  · simp [cardShortfall?]
  · intro e he _
    obtain ⟨hcount, hpos⟩ := hproper.mem_entries_iff.mp he
    rw [hcount, countIf_cardTotals_wantedCopies, List.countP_pos_iff] at hpos
    obtain ⟨c, _, hc⟩ := hpos
    obtain ⟨p, hk, heq⟩ := Option.map_eq_some_iff.mp (beq_iff_eq.mp hc)
    obtain ⟨card, hcard⟩ := hv.exists_card (hp.printing?_eq_some_iff.mp hk).1
    exact heq ▸ hcard.2 ▸ List.mem_map_of_mem hcard.1
  · intro c hmem
    simp only [cardShortfall?, (proper_cardTotals proper_printingCounts).count_eq,
      countIf_cardTotals_printingCounts, countIf_cardTotals_wantedCopies, cardName,
      hp.card?_eq_some_iff.mpr ⟨hmem, rfl⟩]
    rfl

/-- The shortfalls are what is missing, each once. -/
theorem shortfalls_perm (hv : db.Valid) (hp : db.InPlace) :
    (db.shortfalls parent children).Perm (db.lacks parent children) :=
  (List.mergeSort_perm _ _).trans
    ((printingShortfalls_perm hp).append (cardShortfalls_perm hv hp))

end Database
end CardBinder
