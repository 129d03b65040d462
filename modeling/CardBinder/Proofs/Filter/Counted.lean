import CardBinder.Proofs.Database.Succession
import CardBinder.Proofs.Filter.Named
import CardBinder.Proofs.Filter.Selection
import CardBinder.Proofs.Forest.Loop
import CardBinder.Proofs.Supply.Shortfalls
import Mathlib.Algebra.GroupWithZero.Nat

/-! Cards by how many copies the named sets hold: one count for each card, over its printings. -/

namespace CardBinder

/-- What is counted under one of several keys is counted under each of them in turn. -/
theorem countP_keys {α κ : Type} [BEq κ] [LawfulBEq κ] {keys : List κ} (hkeys : keys.Nodup)
    (key : α → κ) (p : α → Bool) (xs : List α) :
    (xs.countP fun x => keys.contains (key x) && p x) =
      (keys.map fun k => xs.countP fun x => key x == k && p x).sum := by
  induction keys with
  | nil => simp
  | cons k keys ih =>
    obtain ⟨hk, hrest⟩ := List.nodup_cons.mp hkeys
    rw [List.map_cons, List.sum_cons, ← ih hrest,
      List.countP_eq_countP_filter_add xs _ (key · == k), List.countP_filter, List.countP_filter]
    refine congrArg₂ (· + ·) (List.countP_congr fun x _ => ?_) (List.countP_congr fun x _ => ?_)
    · rw [List.contains_cons]
      cases key x == k <;> simp
    · rw [List.contains_cons]
      by_cases hx : key x = k
      · simp [hx, hk]
      · simp [hx]

namespace Database
variable {db : Database} {names : List String} {sets : List CardSetId} {card : CardId} {c : Copy}

/-- The copies of a card in the named sets, over all of its printings. -/
def copiesAmong (db : Database) (names : List String) (card : CardId) : Nat :=
  ((db.cardSets.filter (names.contains ·.name)).map fun cs =>
    ((db.printings.filter (·.card == card)).map fun p =>
      (db.copiesOf cs.id).countP (·.printing == p.id)).sum).sum

theorem InPlace.cardOf_eq_some_iff (hp : db.InPlace) : db.cardOf c = some card ↔
    c.printing ∈ (db.printings.filter (·.card == card)).map (·.id) := by
  simp only [cardOf, Option.map_eq_some_iff, hp.printing?_eq_some_iff, List.mem_map,
    List.mem_filter, beq_iff_eq]
  constructor
  · rintro ⟨p, ⟨hmem, hid⟩, hcard⟩
    exact ⟨p, ⟨hmem, hcard⟩, hid⟩
  · rintro ⟨p, ⟨hmem, hcard⟩, hid⟩
    exact ⟨p, ⟨hmem, hid⟩, hcard⟩

theorem InPlace.countP_cardOf (hp : db.InPlace) (card : CardId) (copies : List Copy) :
    copies.countP (db.cardOf · == some card) =
      ((db.printings.filter (·.card == card)).map fun p =>
        copies.countP (·.printing == p.id)).sum := by
  have hids : ((db.printings.filter (·.card == card)).map (·.id)).Nodup :=
    hp.printingIds_nodup.sublist (List.filter_sublist.map _)
  have hkeys := countP_keys hids (·.printing) (fun _ => true) copies
  simp only [Bool.and_true, List.map_map] at hkeys
  refine Eq.trans (List.countP_congr fun c _ => ?_) hkeys
  rw [beq_iff_eq, hp.cardOf_eq_some_iff, List.contains_iff_mem]

/-- The count of the tally is that of the copies in the sets. -/
theorem count_cardCounts (db : Database) (sets : List CardSetId) (card : CardId) :
    (db.cardCounts sets).count card =
      db.copies.countP fun c => sets.contains c.cardSet && db.cardOf c == some card := by
  rw [cardCounts, (Tally.proper_ofList _).count_eq, Tally.countIf_ofList, List.countP_filterMap,
    List.countP_filter]
  refine List.countP_congr fun c _ => ?_
  cases hcard : db.cardOf c with
  | none =>
    rw [cardOf] at hcard
    simp [hcard]
  | some card' =>
    rw [cardOf] at hcard
    simp [hcard, and_comm]

theorem count_cardCounts_named (hv : db.Valid) (hp : db.InPlace)
    (hsets : ∀ id, id ∈ sets ↔ id ∈ (db.cardSets.filter (names.contains ·.name)).map (·.id)) :
    (db.cardCounts sets).count card = db.copiesAmong names card := by
  have hids : ((db.cardSets.filter (names.contains ·.name)).map (·.id)).Nodup :=
    hv.setsAscend.nodup_ids.sublist (List.filter_sublist.map _)
  have hkeys := countP_keys hids (·.cardSet) (db.cardOf · == some card) db.copies
  rw [count_cardCounts, copiesAmong]
  refine Eq.trans (List.countP_congr fun c _ => ?_) (hkeys.trans ?_)
  · simp only [Bool.and_eq_true, List.contains_iff_mem, hsets]
  · rw [List.map_map]
    refine congrArg List.sum (List.map_congr_left fun cs _ => ?_)
    rw [← hp.countP_cardOf, copiesOf, List.countP_filter]
    exact List.countP_congr fun c _ => by simp [and_comm]

/-- A card counts as zero if no copy of it is in a named set. -/
theorem copiesAmong_eq_zero (hv : db.Valid) (hp : db.InPlace)
    (hnone : ∀ c ∈ db.copies, db.cardOf c = some card →
      ∀ cs ∈ db.cardSets, cs.id = c.cardSet → cs.name ∉ names) :
    db.copiesAmong names card = 0 := by
  rw [← count_cardCounts_named hv hp fun _ => Iff.rfl, count_cardCounts, List.countP_eq_zero]
  intro c hc hcounted
  simp only [Bool.and_eq_true, List.contains_iff_mem, beq_iff_eq, List.mem_map,
    List.mem_filter] at hcounted
  obtain ⟨⟨cs, ⟨hcs, hname⟩, hid⟩, hcard⟩ := hcounted
  exact hnone c hc hcard cs hcs hid hname

end Database

theorem CardCount.exists_holds_iff {count : Nat} {counts : List CardCount} :
    counts.any (·.holds count) ↔
      .exactly count ∈ counts ∨ ∃ n, .moreThan n ∈ counts ∧ n < count := by
  rw [List.any_eq_true]
  constructor
  · rintro ⟨asked, hasked, hholds⟩
    cases asked with
    | exactly n =>
      obtain rfl := beq_iff_eq.mp hholds
      exact .inl hasked
    | moreThan n => exact .inr ⟨n, hasked, of_decide_eq_true hholds⟩
  · rintro (hasked | ⟨n, hasked, hlt⟩)
    · exact ⟨_, hasked, beq_self_eq_true count⟩
    · exact ⟨_, hasked, decide_eq_true hlt⟩

namespace Filter
variable {db : Database} {names : List String}

theorem resolveEach_ok {α β : Type} {resolve : α → Outcome β} {strict : Bool} {xs : List α}
    {ys : List β} (h : xs.mapM resolve = .ok ys) : resolveEach strict resolve xs = .ok ys := by
  induction Outcome.mapM_ok_iff.mp h with
  | nil => rfl
  | cons hy hys ih =>
    rw [resolveEach, hy]
    exact Outcome.map_of_ok (ih (Outcome.mapM_ok_iff.mpr hys))

/-- Names of sets, however often repeated, stand for the sets that have them. -/
theorem namedSets_ok (hv : db.Valid) (strict : Bool)
    (hnames : ∀ name ∈ names, name ∈ db.cardSets.map (·.name)) :
    ∃ sets, namedSets db names strict = .ok sets ∧
      ∀ id, id ∈ sets ↔ id ∈ (db.cardSets.filter (names.contains ·.name)).map (·.id) := by
  have hresolve : ∀ {cs}, cs ∈ db.cardSets → db.resolveCardSet cs.name = .ok cs.id := by
    intro cs hcs
    rw [Database.resolveCardSet, hv.findCardSet_name hcs]
  obtain ⟨sets, hsets⟩ : ∃ sets, names.mapM db.resolveCardSet = .ok sets := by
    refine Outcome.exists_mapM fun name hname => ?_
    obtain ⟨cs, hcs, rfl⟩ := List.mem_map.mp (hnames name hname)
    exact ⟨cs.id, hresolve hcs⟩
  refine ⟨sets, resolveEach_ok hsets, fun id => ?_⟩
  simp only [List.mem_map, List.mem_filter, List.contains_iff_mem]
  constructor
  · intro hid
    obtain ⟨name, hname, hok⟩ := Outcome.mem_of_mapM hsets id hid
    obtain ⟨cs, hcs, rfl⟩ := List.mem_map.mp (hnames name hname)
    exact ⟨cs, ⟨hcs, hname⟩, Except.ok.inj ((hresolve hcs).symm.trans hok)⟩
  · rintro ⟨cs, ⟨hcs, hname⟩, rfl⟩
    obtain ⟨id, hid, hok⟩ := Outcome.exists_of_mapM hsets cs.name hname
    exact Except.ok.inj ((hresolve hcs).symm.trans hok) ▸ hid

theorem mem_selectCards_counted (hp : db.InPlace) (sets : List CardSetId)
    (counts : List CardCount) : ∃ ids, (Filter.counted sets counts).selectCards db = .ok ids ∧
      ∀ card, card ∈ ids ↔
        card ∈ db.cards.map (·.id) ∧ counts.any (·.holds ((db.cardCounts sets).count card)) := by
  refine ⟨_, selectCards_eq_ok (c := .cardIn (db.cardsWithCount sets counts)) rfl rfl, ?_⟩
  intro card
  rw [List.mem_filter]
  refine and_congr_right fun hcard => ?_
  obtain ⟨row, hrow, rfl⟩ := List.mem_map.mp hcard
  have hreached : db.rowCard? (.card row.id) = some row :=
    hp.card?_eq_some_iff.mpr ⟨hrow, rfl⟩
  simp only [Database.satisfies, hreached, Option.any_some, List.contains_iff_mem,
    Database.cardsWithCount, List.mem_filter, hcard, true_and]

/-- Over named sets, a card is selected by the number of its copies there, be it zero. -/
theorem countedIn_selects (hv : db.Valid) (hp : db.InPlace) (counts : List CardCount)
    (strict : Bool) (hnames : ∀ name ∈ names, name ∈ db.cardSets.map (·.name)) :
    ∃ f ids, countedIn db counts names strict = .ok f ∧ f.selectCards db = .ok ids ∧
      (∀ card, card ∈ ids ↔ card ∈ db.cards.map (·.id) ∧
        (.exactly (db.copiesAmong names card) ∈ counts ∨
          ∃ n, .moreThan n ∈ counts ∧ n < db.copiesAmong names card)) ∧
      ∀ card ∈ db.cards.map (·.id), (∀ c ∈ db.copies, db.cardOf c = some card →
          ∀ cs ∈ db.cardSets, cs.id = c.cardSet → cs.name ∉ names) →
        (card ∈ ids ↔ .exactly 0 ∈ counts) := by
  obtain ⟨sets, hsets, hmem⟩ := namedSets_ok hv strict hnames
  obtain ⟨ids, hids, hselected⟩ := mem_selectCards_counted hp sets counts
  have hcounted : ∀ card, card ∈ ids ↔ card ∈ db.cards.map (·.id) ∧
      (.exactly (db.copiesAmong names card) ∈ counts ∨
        ∃ n, .moreThan n ∈ counts ∧ n < db.copiesAmong names card) := by
    intro card
    rw [hselected, Database.count_cardCounts_named hv hp hmem, CardCount.exists_holds_iff]
  refine ⟨.counted sets counts, ids, ?_, hids, hcounted, fun card hcard hnone => ?_⟩
  · rw [countedIn, hsets]
    rfl
  · rw [hcounted, Database.copiesAmong_eq_zero hv hp hnone]
    simpa using fun _ => hcard

theorem countedIn_selects_binder :
    Database.binder.copiesAmong ["Pack", "Hounds", "Pack"] ⟨0⟩ = 5 ∧
    ∃ f ids, countedIn Database.binder [.exactly 5] ["Pack", "Hounds", "Pack"] true = .ok f ∧
      f.selectCards Database.binder = .ok ids ∧ ⟨0⟩ ∈ ids := by
  have hcount : Database.binder.copiesAmong ["Pack", "Hounds", "Pack"] ⟨0⟩ = 5 := by
    decide +kernel
  have hnames : ∀ name ∈ ["Pack", "Hounds", "Pack"],
      name ∈ Database.binder.cardSets.map (·.name) := by decide +kernel
  obtain ⟨f, ids, hf, hids, hselected, _⟩ := countedIn_selects Database.valid_binder
    Database.inPlace_binder [.exactly 5] true hnames
  refine ⟨hcount, f, ids, hf, hids, (hselected ⟨0⟩).mpr ⟨List.mem_of_getElem? (i := 0) rfl, ?_⟩⟩
  rw [hcount]
  exact .inl List.mem_cons_self

end Filter
end CardBinder
