import CardBinder.Proofs.Database.Stocked
import CardBinder.Proofs.Database.Succession
import CardBinder.Proofs.Filter.Values
import CardBinder.Proofs.Text.Cut
import CardBinder.Proofs.Text.Integer

/-! The values that filters offer: each is accepted and picks the rows that carry it, unless it is a
rarity that hides the word dividing it from its expansion, or an expansion named like none. -/

namespace CardBinder
variable {db : Database} {e : FilterEntry} {name : String}

/-- A value on offer. -/
structure Offer where
  text : String
  carries : Row → Prop
  /-- What it takes that the text is not read as something else. -/
  clear : Prop

/-- The word that divides an expansion from a rarity is not found again behind it. -/
def UndividedRarity (name : String) : Prop :=
  ¬ " with ".toList <:+: ("with " ++ name).toList

instance (name : String) : Decidable (UndividedRarity name) :=
  inferInstanceAs (Decidable (¬ _))

namespace Database

def entryOffers (db : Database) (kind : LookupKind) (carries : LookupEntry → Row → Prop) :
    List Offer :=
  (db.lookupEntries kind).map fun x => ⟨x.name, carries x, True⟩

def linkOffers (db : Database) (r : Relation) (kind : LookupKind) : List Offer :=
  db.entryOffers kind fun x row => db.LinkedTo row r [x.id.val]

/-- The numbers from the first one to the largest on a card. -/
def numberOffers (db : Database) (first : Nat) (column : NumberColumn) : List Offer :=
  (List.range (db.largest column - first + 1).toNat).map fun i : Nat =>
    ⟨toString (first + i : Int),
      fun row => db.CardHas row fun c => column.value c = some (first + i : Int), True⟩

def levelOffers (db : Database) : List Offer :=
  db.disciplinePairs.filterMap fun p => do
    let discipline ← db.lookupName .discipline p.discipline
    return ⟨discipline ++ " with " ++ p.level.name,
      fun row => db.LinkedTo row .discipline [p.id.val], True⟩

def rarityOffers (db : Database) : List Offer :=
  db.rarityPairs.filterMap fun p => do
    let expansion ← db.lookupName .expansion p.expansion
    let rarity ← db.lookupName .rarity p.rarity
    return ⟨expansion ++ " with " ++ rarity,
      fun row => db.LinkedTo row .rarity [p.id.val], UndividedRarity rarity⟩

def expansionOffers (db : Database) : List Offer :=
  (db.lookupEntries .expansion).map fun x =>
    ⟨x.name, fun row => db.PrintingHas row fun p => p.expansion = some x.id,
      Text.sameAscii x.name noExpansion = false⟩

end Database

/-- What the filters of a kind offer, and what is meant by it; counts and parts are not told here. -/
def FilterKind.offers (db : Database) : FilterKind → List Offer
  | .cardType => db.linkOffers .cardType .cardType
  | .costType =>
    CostType.all.map (fun t => ⟨t.name, fun row => db.CardHas row fun c => c.costType = some t, True⟩) ++
      [⟨noCost, fun row => db.CardHas row fun c => c.costType = none, True⟩]
  | .clan => db.linkOffers .clan .clan
  | .discipline =>
    db.entryOffers .discipline fun x row => db.LinkedTo row .discipline (Filter.disciplineLinks db x.id)
  | .group =>
    db.numberOffers 1 .group ++
      [⟨"Any", fun row => db.CardHas row fun c => c.group = some anyGroup, True⟩]
  | .capacity => db.numberOffers 1 .capacity
  | .cost =>
    db.numberOffers 0 .cost ++
      [⟨"X", fun row => db.CardHas row fun c => c.cost = some variableCost, True⟩,
        ⟨noCost, fun row => db.CardHas row fun c => c.cost = none, True⟩]
  | .life => db.numberOffers 1 .life
  | .creed => db.linkOffers .creed .creed
  | .virtue => db.linkOffers .virtue .virtue
  | .sect => db.linkOffers .sect .sect
  | .title => db.linkOffers .title .title
  | .expansionRarity => db.rarityOffers
  | .disciplineLevel => db.levelOffers
  | .printingExpansion =>
    ⟨noExpansion, fun row => db.PrintingHas row fun p => p.expansion = none, True⟩ :: db.expansionOffers
  | .inSets =>
    db.cardSets.map fun cs => ⟨cs.name, fun row => db.SetHas row fun s => s.id = cs.id, True⟩
  | .parentSet => db.cardSets.map fun cs => ⟨cs.name, fun row => db.rowParent? row = some cs.id, True⟩
  | .artist => db.linkOffers .artist .artist
  | .keyword => db.linkOffers .keyword .keyword
  | _ => []

/-! What is offered -/

namespace Database

theorem mem_sortedNames {kind : LookupKind} :
    name ∈ db.sortedNames kind ↔ ∃ x ∈ db.lookupEntries kind, x.name = name := by
  rw [sortedNames, List.mem_mergeSort, List.mem_map]

theorem mem_levelOffers (hp : db.InPlace) {o : Offer} : o ∈ db.levelOffers ↔
    ∃ p ∈ db.disciplinePairs, ∃ x ∈ db.lookupEntries .discipline, x.id = p.discipline ∧
      o = ⟨x.name ++ " with " ++ p.level.name,
        fun row => db.LinkedTo row .discipline [p.id.val], True⟩ := by
  simp only [levelOffers, List.mem_filterMap, Option.bind_eq_bind, Option.bind_eq_some_iff,
    hp.lookupName_eq_some_iff]
  constructor
  · rintro ⟨p, hpair, _, ⟨x, hx, hid, rfl⟩, ho⟩
    exact ⟨p, hpair, x, hx, hid, (Option.some.inj ho).symm⟩
  · rintro ⟨p, hpair, x, hx, hid, rfl⟩
    exact ⟨p, hpair, _, ⟨x, hx, hid, rfl⟩, rfl⟩

theorem mem_rarityOffers (hp : db.InPlace) {o : Offer} : o ∈ db.rarityOffers ↔
    ∃ p ∈ db.rarityPairs, ∃ x ∈ db.lookupEntries .expansion, ∃ y ∈ db.lookupEntries .rarity,
      x.id = p.expansion ∧ y.id = p.rarity ∧
      o = ⟨x.name ++ " with " ++ y.name,
        fun row => db.LinkedTo row .rarity [p.id.val], UndividedRarity y.name⟩ := by
  simp only [rarityOffers, List.mem_filterMap, Option.bind_eq_bind, Option.bind_eq_some_iff,
    hp.lookupName_eq_some_iff]
  constructor
  · rintro ⟨p, hpair, _, ⟨x, hx, hid, rfl⟩, _, ⟨y, hy, hid', rfl⟩, ho⟩
    exact ⟨p, hpair, x, hx, y, hy, hid, hid', (Option.some.inj ho).symm⟩
  · rintro ⟨p, hpair, x, hx, y, hy, hid, hid', rfl⟩
    exact ⟨p, hpair, _, ⟨x, hx, hid, rfl⟩, _, ⟨y, hy, hid', rfl⟩, rfl⟩

theorem mem_levelValues (hv : db.CatalogValid) (hp : db.InPlace) :
    name ∈ db.levelValues ↔ ∃ o ∈ db.levelOffers, o.text = name := by
  simp only [levelValues, List.mem_flatMap, mem_sortedNames, exists_exists_and_eq_and,
    mem_levelOffers hp]
  constructor
  · rintro ⟨x, hx, hmem⟩
    simp only [hv.findLookup_name hx, List.mem_map, List.mem_filter] at hmem
    obtain ⟨level, ⟨_, hfound⟩, rfl⟩ := hmem
    obtain ⟨id, hid⟩ := Option.isSome_iff_exists.mp hfound
    obtain ⟨p, hpair, hd, rfl, _⟩ := hv.findDisciplinePair_eq_some_iff.mp hid
    exact ⟨_, ⟨p, hpair, x, hx, hd.symm, rfl⟩, rfl⟩
  · rintro ⟨_, ⟨p, hpair, x, hx, hd, rfl⟩, rfl⟩
    have hlevel : p.level ∈ DisciplineLevel.all := by cases p.level <;> decide
    have hfound : (db.findDisciplinePair x.id p.level).isSome := by
      rw [hv.findDisciplinePair_eq_some_iff.mpr ⟨p, hpair, hd.symm, rfl, rfl⟩, Option.isSome_some]
    refine ⟨x, hx, ?_⟩
    simp only [hv.findLookup_name hx, List.mem_map, List.mem_filter]
    exact ⟨p.level, ⟨hlevel, hfound⟩, rfl⟩

theorem mem_rarityValues (hp : db.InPlace) :
    name ∈ db.rarityValues ↔ ∃ o ∈ db.rarityOffers, o.text = name := by
  simp only [rarityValues, List.mem_mergeSort, List.mem_filterMap, Option.bind_eq_bind,
    Option.bind_eq_some_iff, hp.lookupName_eq_some_iff, mem_rarityOffers hp]
  constructor
  · rintro ⟨p, hpair, _, ⟨x, hx, hid, rfl⟩, _, ⟨y, hy, hid', rfl⟩, heq⟩
    exact ⟨_, ⟨p, hpair, x, hx, y, hy, hid, hid', rfl⟩, Option.some.inj heq⟩
  · rintro ⟨_, ⟨p, hpair, x, hx, y, hy, hid, hid', rfl⟩, rfl⟩
    exact ⟨p, hpair, _, ⟨x, hx, hid, rfl⟩, _, ⟨y, hy, hid', rfl⟩, rfl⟩

end Database

namespace FilterEntry
open Database

/-- The values are the texts of the offers. -/
theorem mem_values (hv : db.CatalogValid) (hp : db.InPlace) (hcount : e.kind ≠ .cardCount)
    (hrole : e.kind ≠ .role) : name ∈ e.values db ↔ ∃ o ∈ e.kind.offers db, o.text = name := by
  have hnumbers : ∀ (first : Nat) (column : NumberColumn),
      name ∈ numbersBetween first (db.largest column) ↔
        ∃ o ∈ db.numberOffers first column, o.text = name := by
    simp only [numbersBetween, numberOffers, List.mem_map, exists_exists_and_eq_and, implies_true]
  have hlinks : ∀ (r : Relation) (kind : LookupKind),
      name ∈ db.sortedNames kind ↔ ∃ o ∈ db.linkOffers r kind, o.text = name := by
    simp only [mem_sortedNames, linkOffers, entryOffers, List.mem_map, exists_exists_and_eq_and,
      implies_true]
  have hone := hnumbers 1
  have hzero := hnumbers 0
  rw [values]
  cases hk : e.kind with
  | cardCount => exact absurd hk hcount
  | role => exact absurd hk hrole
  | expansionRarity => exact mem_rarityValues hp
  | disciplineLevel => exact mem_levelValues hv hp
  | cardType | clan | creed | virtue | sect | title | artist | keyword => exact hlinks _ _
  | capacity | life => exact hone _
  | discipline =>
    simp only [FilterKind.offers, entryOffers, mem_sortedNames, List.mem_map, exists_exists_and_eq_and]
  | costType =>
    simp only [FilterKind.offers, List.mem_append, or_and_right, exists_or, List.mem_map,
      exists_exists_and_eq_and, List.mem_singleton, exists_eq_left, eq_comm (a := name)]
  | group =>
    simp only [FilterKind.offers, List.mem_append, or_and_right, exists_or, List.mem_singleton,
      exists_eq_left, eq_comm (a := name), ← hone]
    rfl
  | cost =>
    simp only [FilterKind.offers, List.mem_append, or_and_right, exists_or, List.mem_cons,
      List.not_mem_nil, or_false, exists_eq_left, eq_comm (a := name), ← hzero]
    rfl
  | printingExpansion =>
    simp only [FilterKind.offers, expansionOffers, List.mem_cons, mem_sortedNames, or_and_right,
      exists_or, List.mem_map, exists_exists_and_eq_and, exists_eq_left, eq_comm (a := name)]
  | inSets | parentSet =>
    simp only [FilterKind.offers, sortedSetNames, List.mem_mergeSort, List.mem_map,
      exists_exists_and_eq_and]
  | _ => simp [FilterKind.offers]

/-! What is accepted -/

/-- The text of an offer is accepted, and the filter made of it selects the rows that carry it. -/
def Accepts (e : FilterEntry) (db : Database) (o : Offer) : Prop :=
  ∃ f, e.build db [o.text] = .ok f ∧ f.entities = e.entities ∧
    ∀ entity ∈ e.entities, ∃ rows, f.select db entity = .ok rows ∧
      ∀ row, row ∈ rows ↔ row ∈ db.rows entity ∧ o.carries row

variable {α : Type} {read : String → Outcome α} {make : List α → Filter} {marks : α → Row → Prop}
  {o : Offer}

theorem Reads.accepts (h : e.Reads db read make marks) (he : e ∈ vocabulary) {x : α}
    (hread : read o.text = .ok x) (hmarks : ∀ row, marks x row ↔ o.carries row) :
    e.Accepts db o := by
  have hbuild := h.build_singleton.mpr ⟨x, hread, rfl⟩
  have hentities : (make [x]).entities = e.entities :=
    (h.entities [x]).trans (vocabulary_kinds e he).1.symm
  obtain ⟨c, hc, hmarked⟩ := h.marked [x]
  refine ⟨make [x], hbuild, hentities, fun entity hentity => ?_⟩
  have hselects : (make [x]).selects entity := by
    rwa [← Filter.mem_entities, hentities]
  refine ⟨_, Filter.select_eq_ok hc hselects, fun row => ?_⟩
  rw [Database.select, List.mem_filter, hmarked, ← hmarks]
  simp only [List.mem_singleton, exists_eq_left]

theorem accepts_links (he : e ∈ vocabulary) (hv : db.CatalogValid) {r : Relation} {kind : LookupKind}
    (hr : e.kind.relation? = some r) (hkind : r.lookupKind? = some kind)
    (ho : o ∈ db.linkOffers r kind) : e.Accepts db o := by
  obtain ⟨x, hx, rfl⟩ := List.mem_map.mp ho
  exact (reads_relation hr).accepts he (Filter.targets_entry hv hkind hx) fun _ => Iff.rfl

/-! Numbers -/

/-- The numbers on offer are ones that are read. -/
theorem mem_numberOffers (hfit : ∀ c ∈ db.cards, c.NumbersFit) {first : Nat} {column : NumberColumn}
    (ho : o ∈ db.numberOffers first column) : ∃ n : Nat, Text.isCardNumber n ∧
      o = ⟨toString (n : Int), fun row => db.CardHas row fun c => column.value c = some (n : Int),
        True⟩ := by
  obtain ⟨i, hi, rfl⟩ := List.mem_map.mp ho
  have hlargest : db.largest column ≤ 2147483647 := by
    rw [largest]
    cases hmax : (db.cards.filterMap column.value).max? with
    | none => decide
    | some m =>
      obtain ⟨c, hc, hm⟩ := List.mem_filterMap.mp (List.max?_mem hmax)
      have := hfit c hc
      cases column
      · exact (this.group m hm).2
      · exact (this.capacity m hm).2
      · exact (this.cost m hm).2
      · exact (this.life m hm).2
  refine ⟨first + i, ?_, by push_cast; rfl⟩
  have := List.mem_range.mp hi
  simp only [Text.isCardNumber, Bool.and_eq_true, decide_eq_true_eq]
  omega

theorem number_toString {n : Nat} (h : Text.isCardNumber n) :
    e.number (toString (n : Int)) = .ok (n : Int) := by
  rw [number, Text.cardNumber?_toString h]
  rfl

theorem group_toString {n : Nat} (h : Text.isCardNumber n) :
    e.group (toString (n : Int)) = .ok (n : Int) := by
  rw [group, Text.sameAscii_toString n (by decide), Text.cardNumber?_toString h]
  rfl

theorem cost_toString {n : Nat} (h : Text.isCardNumber n) :
    e.cost (toString (n : Int)) = .ok (some (.fixed n)) := by
  rw [cost, Text.sameAscii_toString n (by decide), Text.sameAscii_toString n (by decide),
    number_toString h]
  rfl

theorem costType_offer (t : CostType) : e.costType t.name = .ok (some t) := by
  have hread : Text.sameAscii t.name noCost = false ∧ CostType.ofText? t.name = some t := by
    cases t <;> decide
  rw [costType, hread.1, hread.2]
  rfl

theorem group_any : e.group "Any" = .ok anyGroup :=
  if_pos (by decide)

theorem cost_variable : e.cost "X" = .ok (some .variable) :=
  if_pos (by decide)

theorem cost_none : e.cost noCost = .ok none :=
  (if_neg (by decide)).trans (if_pos (by decide))

theorem costType_noCost : e.costType noCost = .ok none :=
  if_pos (by decide)

/-! Pairs -/

theorem tail_with (name : String) : (" with " ++ name).toList.tail = ("with " ++ name).toList := by
  simp

theorem divided_level (expansion : String) (level : DisciplineLevel) :
    e.divided (expansion ++ " with " ++ level.name) = .ok (expansion, level.name) := by
  have hlast : ¬ " with ".toList <:+: ("with " ++ level.name).toList := by
    cases level <;> decide
  rw [divided, Text.cutLast_append (by decide) (tail_with _ ▸ hlast)]
  rfl

theorem level_offer (discipline : String) (level : DisciplineLevel) :
    e.level (discipline ++ " with " ++ level.name) = .ok (Text.trim discipline, level) := by
  have hlevel : DisciplineLevel.ofText? level.name = some level := by
    cases level <;> decide
  rw [FilterEntry.level, divided_level]
  simp only [bind, Except.bind, valueOr, hlevel]
  rfl

theorem rarity_offer {rarity : String} (h : UndividedRarity rarity) (expansion : String) :
    e.rarity (expansion ++ " with " ++ rarity) = .ok (Text.trim expansion, Text.trim rarity) := by
  rw [FilterEntry.rarity, divided, Text.cutLast_append (by decide) (tail_with _ ▸ h)]
  rfl

/-- A rarity that is divided itself is read as less than it is. -/
theorem rarity_misread {rarity : String} (h : ¬ UndividedRarity rarity) (expansion : String) :
    ∃ first last, e.rarity (expansion ++ " with " ++ rarity) = .ok (first, last) ∧ last ≠ rarity := by
  obtain ⟨first, last, hcut, hlength⟩ :=
    Text.exists_cutLast expansion (by decide) (tail_with _ ▸ not_not.mp h)
  refine ⟨Text.trim first, Text.trim last, by rw [FilterEntry.rarity, divided, hcut]; rfl, ?_⟩
  rintro rfl
  have htrim := (Text.length_trim_le last)
  omega

theorem accepts_level (he : e ∈ vocabulary) (hv : db.CatalogValid) (hp : db.InPlace)
    (hk : e.kind = .disciplineLevel) (ho : o ∈ db.levelOffers) : e.Accepts db o := by
  obtain ⟨p, hpair, x, hx, hid, rfl⟩ := (mem_levelOffers hp).mp ho
  have htargets : Filter.levelTargets db (Text.trim x.name) p.level = .ok [p.id.val] := by
    have hfound : db.findDisciplinePair x.id p.level = some p.id :=
      hv.findDisciplinePair_eq_some_iff.mpr ⟨p, hpair, hid.symm, rfl, rfl⟩
    simp only [Filter.levelTargets, hv.resolve_trim hx]
    exact congrArg (fun pair : Option PairId => Except.ok (pair.map (·.val)).toList) hfound
  refine (reads_disciplineLevel hk).accepts he (x := [p.id.val]) ?_ fun _ => Iff.rfl
  rw [level_offer]
  exact htargets

theorem accepts_rarity (he : e ∈ vocabulary) (hv : db.CatalogValid) (hp : db.InPlace)
    (hk : e.kind = .expansionRarity) (ho : o ∈ db.rarityOffers) (hclear : o.clear) : e.Accepts db o := by
  obtain ⟨p, hpair, x, hx, y, hy, hid, hid', rfl⟩ := (mem_rarityOffers hp).mp ho
  have htargets : Filter.rarityTargets db (Text.trim x.name) (Text.trim y.name) = .ok [p.id.val] := by
    have hfound : db.findRarityPair x.id y.id = some p.id :=
      hv.findRarityPair_eq_some_iff.mpr ⟨p, hpair, hid.symm, hid'.symm, rfl⟩
    simp only [Filter.rarityTargets, hv.resolve_trim hx, hv.resolve_trim hy]
    exact congrArg (fun pair : Option PairId => Except.ok (pair.map (·.val)).toList) hfound
  refine (reads_expansionRarity hk).accepts he (x := [p.id.val]) ?_ fun _ => Iff.rfl
  rw [rarity_offer hclear]
  exact htargets

/-! All offers -/

theorem accepts_printed (he : e ∈ vocabulary) (hv : db.CatalogValid)
    (hk : e.kind = .printingExpansion) (ho : o ∈ FilterKind.printingExpansion.offers db)
    (hclear : o.clear) : e.Accepts db o := by
  rcases List.mem_cons.mp ho with rfl | ho
  · have hnone : expansion noExpansion = none := by decide
    refine (reads_printingExpansion hk).accepts he (x := none) ?_ fun _ => Iff.rfl
    simp only [printed, hnone]
  · obtain ⟨x, hx, rfl⟩ := List.mem_map.mp ho
    have hexpansion : expansion x.name = some x.name := if_neg (by simpa using hclear)
    refine (reads_printingExpansion hk).accepts he (x := some x.id) ?_ fun _ => Iff.rfl
    simp only [printed, hexpansion, hv.resolve_name hx]
    rfl

/-- A clear offer is accepted, whatever kind of filter it is from. -/
theorem accepts_clear (he : e ∈ vocabulary) (h : db.Stocked) (hf : db.Fits)
    (ho : o ∈ e.kind.offers db) (hclear : o.clear) : e.Accepts db o := by
  have hv := h.orderly.toCatalogValid
  have hp := h.inPlace hf
  have hfit := h.numbersFit
  generalize hk : e.kind = kind at ho
  cases kind with
  | cardType | clan | creed | virtue | sect | title | artist | keyword =>
    exact accepts_links he hv (by rw [hk]; rfl) rfl ho
  | discipline =>
    obtain ⟨x, hx, rfl⟩ := List.mem_map.mp ho
    exact (reads_relation (by rw [hk]; rfl)).accepts he (Filter.targets_discipline hv hx)
      fun _ => Iff.rfl
  | costType =>
    rcases List.mem_append.mp ho with ho | ho
    · obtain ⟨t, _, rfl⟩ := List.mem_map.mp ho
      exact (reads_costType hk).accepts he (costType_offer t) fun _ => Iff.rfl
    · obtain rfl := List.mem_singleton.mp ho
      exact (reads_costType hk).accepts he costType_noCost fun _ => Iff.rfl
  | group =>
    rcases List.mem_append.mp ho with ho | ho
    · obtain ⟨n, hn, rfl⟩ := mem_numberOffers hfit ho
      exact (reads_group hk).accepts he (group_toString hn) fun _ => Iff.rfl
    · obtain rfl := List.mem_singleton.mp ho
      exact (reads_group hk).accepts he group_any fun _ => Iff.rfl
  | capacity =>
    obtain ⟨n, hn, rfl⟩ := mem_numberOffers hfit ho
    exact (reads_capacity hk).accepts he (number_toString hn) fun _ => Iff.rfl
  | life =>
    obtain ⟨n, hn, rfl⟩ := mem_numberOffers hfit ho
    exact (reads_life hk).accepts he (number_toString hn) fun _ => Iff.rfl
  | cost =>
    rcases List.mem_append.mp ho with ho | ho
    · obtain ⟨n, hn, rfl⟩ := mem_numberOffers hfit ho
      exact (reads_cost hk).accepts he (cost_toString hn) fun _ => Iff.rfl
    · rcases List.mem_cons.mp ho with rfl | ho
      · exact (reads_cost hk).accepts he cost_variable fun _ => Iff.rfl
      · obtain rfl := List.mem_singleton.mp ho
        exact (reads_cost hk).accepts he cost_none fun _ => Iff.rfl
  | expansionRarity => exact accepts_rarity he hv hp hk ho hclear
  | disciplineLevel => exact accepts_level he hv hp hk ho
  | printingExpansion => exact accepts_printed he hv hk ho hclear
  | inSets =>
    obtain ⟨cs, hcs, rfl⟩ := List.mem_map.mp ho
    refine (reads_inSets hk).accepts he (x := cs.id) ?_ fun _ => Iff.rfl
    simp only [resolveCardSet, h.orderly.findCardSet_name hcs]
  | parentSet =>
    obtain ⟨cs, hcs, rfl⟩ := List.mem_map.mp ho
    refine (reads_parentSet hk).accepts he (x := cs.id) ?_ fun _ => Iff.rfl
    simp only [resolveCardSet, h.orderly.findCardSet_name hcs]
  | _ => cases ho

/-- The values of a filter are its offers, and the clear ones are accepted for what they are. -/
structure Honours (e : FilterEntry) (db : Database) : Prop where
  offered : ∀ v, v ∈ e.values db ↔ ∃ o ∈ e.kind.offers db, o.text = v
  accepted : ∀ o ∈ e.kind.offers db, o.clear → e.Accepts db o
  /-- Of a pair whose rarity is divided itself, something else is read. -/
  misread : e.kind = .expansionRarity → ∀ x ∈ db.lookupEntries .expansion,
    ∀ y ∈ db.lookupEntries .rarity, ¬ UndividedRarity y.name →
    ∃ first last, e.rarity (x.name ++ " with " ++ y.name) = .ok (first, last) ∧ last ≠ y.name
  /-- An expansion that is named like none is taken for none. -/
  mistaken : e.kind = .printingExpansion → ∀ x ∈ db.lookupEntries .expansion,
    Text.sameAscii x.name noExpansion → e.build db [x.name] = .ok (.printedIn [none])

end FilterEntry

/-- What filters offer is honoured, apart from rarities that are divided themselves and from
expansions that are named like none; these are read as something else. -/
theorem Database.Stocked.honours (h : db.Stocked) (hf : db.Fits) (he : e ∈ vocabulary)
    (hcount : e.kind ≠ .cardCount) (hrole : e.kind ≠ .role) : e.Honours db where
  offered _ := FilterEntry.mem_values h.orderly.toCatalogValid (h.inPlace hf) hcount hrole
  accepted _ ho hclear := FilterEntry.accepts_clear he h hf ho hclear
  misread _ x _ _ _ hdivided := FilterEntry.rarity_misread hdivided x.name
  mistaken hk x _ hnone := by
    refine ((FilterEntry.reads_printingExpansion hk).build_iff _ _).mpr ⟨[none], ?_, rfl⟩
    have hexpansion : FilterEntry.expansion x.name = none := if_pos hnone
    rw [Outcome.mapM_singleton]
    simp only [FilterEntry.printed, hexpansion]
    rfl

namespace Database

theorem honours_shelf : shelf.Stocked ∧ shelf.Fits ∧
    (∀ e ∈ vocabulary, e.kind ≠ .cardCount → e.kind ≠ .role → e.Honours shelf) ∧
    vocabulary[4].values shelf = ["1", "2", "Any"] ∧ "Sabbat with Common" ∈ vocabulary[14].values shelf ∧
    (vocabulary[14].build shelf ["Sabbat with Common"] >>= (·.selectCards shelf)) = .ok [⟨1⟩] := by
  have hall : ∀ e ∈ vocabulary, e.kind ≠ .cardCount → e.kind ≠ .role → e.Honours shelf :=
    fun e he hcount hrole => stocked_shelf.honours fits_shelf he hcount hrole
  refine ⟨stocked_shelf, fits_shelf, hall, by decide +kernel, ?_, by decide +kernel⟩
  exact List.mem_mergeSort.mpr (by decide +kernel)

def dividedCatalog : Catalog where
  cards := [{ name := "Dog", rarities := [⟨"Jyhad", "Common with Bite"⟩] }]

/-- The only rarity on offer is not accepted. -/
theorem not_accepts_divided : (empty.loadCatalog dividedCatalog).1.Stocked ∧
    "Jyhad with Common with Bite" ∈ vocabulary[14].values (empty.loadCatalog dividedCatalog).1 ∧
    vocabulary[14].build (empty.loadCatalog dividedCatalog).1 ["Jyhad with Common with Bite"] =
      .error (.notFound (.entry .expansion) "Jyhad with Common") :=
  ⟨.loadCatalog .empty (by decide +kernel), List.mem_mergeSort.mpr (by decide +kernel), rfl⟩

end Database
end CardBinder
