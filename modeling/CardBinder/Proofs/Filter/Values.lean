import CardBinder.Proofs.Filter.Named
import CardBinder.Proofs.Filter.Selection
import CardBinder.Proofs.Like

/-! How filters are made of lists of values: each value is read by itself, and a row is picked if one of
the values asks for it. -/

namespace CardBinder
variable {db : Database} {e : FilterEntry} {α β : Type}

/-! The vocabulary -/

namespace FilterKind

/-- The relation that a filter follows by the names of entries. -/
def relation? : FilterKind → Option Relation
  | .cardType => some .cardType
  | .clan => some .clan
  | .discipline => some .discipline
  | .creed => some .creed
  | .virtue => some .virtue
  | .sect => some .sect
  | .title => some .title
  | .artist => some .artist
  | .keyword => some .keyword
  | _ => none

/-- The filter that looks for a text. -/
def ofText? : FilterKind → Option (String → Filter)
  | .cardText => some Filter.textContains
  | .cardName => some Filter.nameContains
  | .setName => some (Filter.setTextContains .setName)
  | .setAuthor => some (Filter.setTextContains .setAuthor)
  | .setComment => some (Filter.setTextContains .setComment)
  | .setAnnotations => some (Filter.setTextContains .setAnnotations)
  | _ => none

/-- The tables that the filters of a kind select from. -/
def entities : FilterKind → List Entity
  | .printingExpansion => Entity.withPrinting
  | .inUse => Entity.withPrinting
  | .inSets => [.copy]
  | .setName => [.cardSet]
  | .setAuthor => [.cardSet]
  | .setComment => [.cardSet]
  | .setAnnotations => [.cardSet]
  | .setInUse => [.cardSet]
  | .parentSet => [.cardSet]
  | _ => Entity.withCard

def input : FilterKind → FilterInput
  | .cardText => .text
  | .cardName => .text
  | .setName => .text
  | .setAuthor => .text
  | .setComment => .text
  | .setAnnotations => .text
  | .inUse => .flag
  | .setInUse => .flag
  | .expansionRarity => .withList
  | .disciplineLevel => .withList
  | .cardCount => .withList
  | _ => .list

theorem exists_ofText {kind : FilterKind} (h : kind.input = .text) :
    ∃ make, kind.ofText? = some make ∧ ∀ text, (make text).entities = kind.entities := by
  cases kind <;> first | exact ⟨_, rfl, fun _ => rfl⟩ | cases h

end FilterKind

theorem vocabulary_kinds : ∀ e ∈ vocabulary,
    e.entities = e.kind.entities ∧ e.input = e.kind.input := by
  decide

/-! What rows have -/

namespace Database
variable {row : Row}

def CardHas (db : Database) (row : Row) (p : Card → Prop) : Prop :=
  ∃ c ∈ db.rowCard? row, p c

def PrintingHas (db : Database) (row : Row) (p : Printing → Prop) : Prop :=
  ∃ x ∈ db.rowPrinting? row, p x

def SetHas (db : Database) (row : Row) (p : CardSet → Prop) : Prop :=
  ∃ cs ∈ db.rowCardSet? row, p cs

/-- The card of a row is linked to one of the targets. -/
def LinkedTo (db : Database) (row : Row) (r : Relation) (targets : List Nat) : Prop :=
  db.CardHas row fun c => ∃ n ∈ db.related c.id r, n ∈ targets

theorem oneOfOr_iff {γ : Type} [BEq γ] [LawfulBEq γ] {values : List γ} {orNone : Bool}
    {v : Option γ} : oneOfOr values orNone v ↔ (∃ n ∈ values, v = some n) ∨ v = none ∧ orNone := by
  cases v <;> simp [oneOfOr]

/-- A list that may hold nothing as an item asks for its values, and for rows without one. -/
theorem oneOfOr_items {γ δ : Type} [BEq γ] [LawfulBEq γ] [BEq δ] [LawfulBEq δ] (g : γ → δ)
    (xs : List (Option γ)) (v : Option δ) :
    oneOfOr ((xs.filterMap id).map g) (xs.contains none) v ↔ ∃ x ∈ xs, v = x.map g := by
  rw [oneOfOr_iff]
  simp only [List.mem_map, List.mem_filterMap, id_eq, exists_eq_right, exists_exists_and_eq_and,
    List.contains_iff_mem]
  constructor
  · rintro (⟨n, hn, rfl⟩ | ⟨rfl, hnone⟩)
    · exact ⟨some n, hn, rfl⟩
    · exact ⟨none, hnone, rfl⟩
  · rintro ⟨_ | n, hx, rfl⟩
    · exact Or.inr ⟨rfl, hx⟩
    · exact Or.inl ⟨n, hx, rfl⟩

end Database

/-! Filters of lists -/

namespace Filter
open Database

/-- A filter made of a list picks what one of its items marks. -/
structure Gathers (db : Database) (kind : FilterKind) (make : List α → Filter)
    (marks : α → Row → Prop) : Prop where
  entities : ∀ xs, (make xs).entities = kind.entities
  marked : ∀ xs, ∃ c, (make xs).condition db = .ok c ∧
    ∀ row, db.satisfies row c ↔ ∃ x ∈ xs, marks x row

theorem gathers_related {kind : FilterKind} (hk : kind.entities = Entity.withCard) (r : Relation) :
    Gathers db kind (fun ts : List (List Nat) => .related r ts.flatten)
      fun ts row => db.LinkedTo row r ts where
  entities _ := hk ▸ rfl
  marked xs := by
    refine ⟨_, rfl, fun row => ?_⟩
    simp only [satisfies, Option.any_eq_true, List.any_eq_true, List.contains_iff_mem,
      List.mem_flatten]
    constructor
    · rintro ⟨c, hc, n, hn, ts, hts, hmem⟩
      exact ⟨ts, hts, c, hc, n, hn, hmem⟩
    · rintro ⟨ts, hts, c, hc, n, hn, hmem⟩
      exact ⟨c, hc, n, hn, ts, hts, hmem⟩

theorem gathers_number {kind : FilterKind} (hk : kind.entities = Entity.withCard)
    (column : NumberColumn) : Gathers db kind (fun ns => .number column ns false)
      fun n row => db.CardHas row fun c => column.value c = some n where
  entities _ := hk ▸ rfl
  marked xs := by
    refine ⟨_, rfl, fun row => ?_⟩
    simp only [satisfies, Option.any_eq_true, oneOfOr_iff, Bool.false_eq_true, and_false, or_false]
    exact ⟨fun ⟨c, hc, n, hn, heq⟩ => ⟨n, hn, c, hc, heq⟩,
      fun ⟨n, hn, c, hc, heq⟩ => ⟨c, hc, n, hn, heq⟩⟩

theorem gathers_cost : Gathers db .cost (fun xs => costs (xs.filterMap id) (xs.contains none))
    fun x row => db.CardHas row fun c => c.cost = x.map CostValue.stored where
  entities _ := rfl
  marked xs := by
    refine ⟨_, rfl, fun row => ?_⟩
    simp only [satisfies, Option.any_eq_true, oneOfOr_items, NumberColumn.value]
    exact ⟨fun ⟨c, hc, x, hx, heq⟩ => ⟨x, hx, c, hc, heq⟩,
      fun ⟨x, hx, c, hc, heq⟩ => ⟨c, hc, x, hx, heq⟩⟩

theorem gathers_costType :
    Gathers db .costType (fun xs => .costType (xs.filterMap id) (xs.contains none))
      fun x row => db.CardHas row fun c => c.costType = x where
  entities _ := rfl
  marked xs := by
    refine ⟨_, rfl, fun row => ?_⟩
    have hitems : ∀ v, oneOfOr (xs.filterMap id) (xs.contains none) v ↔ ∃ x ∈ xs, v = x := by
      intro v
      simpa using oneOfOr_items (id : CostType → CostType) xs v
    simp only [satisfies, Option.any_eq_true, hitems]
    exact ⟨fun ⟨c, hc, x, hx, heq⟩ => ⟨x, hx, c, hc, heq⟩,
      fun ⟨x, hx, c, hc, heq⟩ => ⟨c, hc, x, hx, heq⟩⟩

theorem gathers_printedIn : Gathers db .printingExpansion .printedIn
    fun x row => db.PrintingHas row fun p => p.expansion = x where
  entities _ := rfl
  marked xs := by
    refine ⟨_, rfl, fun row => ?_⟩
    simp only [satisfies, Option.any_eq_true, List.contains_iff_mem]
    exact ⟨fun ⟨p, hp, hmem⟩ => ⟨_, hmem, p, hp, rfl⟩,
      fun ⟨_, hmem, p, hp, heq⟩ => ⟨p, hp, heq ▸ hmem⟩⟩

theorem gathers_inSets : Gathers db .inSets .inSets
    fun id row => db.SetHas row fun cs => cs.id = id where
  entities _ := rfl
  marked xs := by
    refine ⟨_, rfl, fun row => ?_⟩
    simp only [satisfies, Option.any_eq_true, List.contains_iff_mem]
    exact ⟨fun ⟨cs, hcs, hmem⟩ => ⟨_, hmem, cs, hcs, rfl⟩,
      fun ⟨_, hmem, cs, hcs, heq⟩ => ⟨cs, hcs, heq ▸ hmem⟩⟩

theorem gathers_childOf : Gathers db .parentSet .childOf
    fun id row => db.rowParent? row = some id where
  entities _ := rfl
  marked xs := by
    refine ⟨_, rfl, fun row => ?_⟩
    simp only [satisfies, Option.any_eq_true, List.contains_iff_mem]
    exact ⟨fun ⟨id, hid, hmem⟩ => ⟨id, hmem, hid⟩, fun ⟨id, hmem, hid⟩ => ⟨id, hid, hmem⟩⟩

/-- The cards of a part, once their type is found. -/
def ofRole (x : CardRole × List Nat) : Filter :=
  .all (.related .cardType x.2 :: x.1.phrases)

theorem fits_phrases (role : CardRole) : ∀ f ∈ role.phrases, ∀ p ∈ f.patterns, Like.fits p := by
  have hall : ∀ f ∈ role.phrases, ∀ p ∈ f.patterns,
      p.toList.all (·.toNat < 128) ∧ p.toList.length ≤ 10000 := by
    cases role <;> decide +kernel
  exact fun f hf p hp => Like.fits_of_ascii (hall f hf p hp).1 (hall f hf p hp).2

theorem gathers_role : Gathers db .role (fun xs => .role (.any (xs.map ofRole)))
    fun x row => ∃ c, (ofRole x).condition db = .ok c ∧ db.satisfies row c where
  entities _ := rfl
  marked xs := by
    -- A text may be refused for its length; those that stand for a part never are.
    have hask : ∀ x, ∃ c, (ofRole x).condition db = .ok c := by
      intro x
      refine exists_condition (fun p hp => ?_) db
      rw [ofRole, patterns, patternsAll_eq, List.mem_flatMap] at hp
      obtain ⟨f, hf, hp⟩ := hp
      rcases List.mem_cons.mp hf with rfl | hf
      · cases hp
      · exact fits_phrases x.1 f hf p hp
    choose asks hasks using hask
    have hall : conditions db (xs.map ofRole) = .ok (xs.map asks) := by
      induction xs with
      | nil => rfl
      | cons x xs ih =>
        rw [List.map_cons, conditions, hasks, ih]
        rfl
    refine ⟨.any (xs.map asks), congrArg (Except.map Condition.any) hall, fun row => ?_⟩
    rw [satisfies, satisfiesAny_iff]
    simp only [List.mem_map, exists_exists_and_eq_and, hasks, Except.ok.injEq, exists_eq_left']

end Filter

/-! Readings -/

namespace FilterEntry
variable {γ : Type} {read : String → Outcome α} {make : List α → Filter} {marks : α → Row → Prop}

/-- A filter is made by reading each value by itself, and picks what one of the readings marks. -/
structure Reads (e : FilterEntry) (db : Database) (read : String → Outcome α)
    (make : List α → Filter) (marks : α → Row → Prop) : Prop
    extends Filter.Gathers db e.kind make marks where
  build_iff : ∀ values f, e.build db values = .ok f ↔ ∃ xs, values.mapM read = .ok xs ∧ make xs = f

theorem Reads.of_round (hg : Filter.Gathers db e.kind make marks)
    (h : ∀ values, e.build db values = (values.mapM read).map make) :
    e.Reads db read make marks where
  toGathers := hg
  build_iff values f := by rw [h, Outcome.map_eq_ok_iff]

/-- All values may be read first, and then be looked up. -/
theorem Reads.of_rounds {first : String → Outcome γ} {second : γ → Outcome α}
    (hg : Filter.Gathers db e.kind make marks)
    (h : ∀ values, e.build db values =
      values.mapM first >>= fun items => (items.mapM second).map make) :
    e.Reads db (fun v => first v >>= second) make marks where
  toGathers := hg
  build_iff values f := by
    rw [h, Outcome.bind_eq_ok_iff]
    simp only [Outcome.map_eq_ok_iff, ← Outcome.mapM_mapM_ok_iff]
    exact ⟨fun ⟨items, hitems, xs, hxs, heq⟩ => ⟨xs, ⟨items, hitems, hxs⟩, heq⟩,
      fun ⟨xs, ⟨items, hitems, hxs⟩, heq⟩ => ⟨items, hitems, xs, hxs, heq⟩⟩

theorem build_relation {r : Relation} (hr : e.kind.relation? = some r) (values : List String) :
    e.build db values = Filter.lookup db r values true := by
  rw [build]
  cases hk : e.kind <;> simp_all [FilterKind.relation?]

theorem entities_relation {r : Relation} (hr : e.kind.relation? = some r) :
    e.kind.entities = Entity.withCard := by
  cases hk : e.kind <;> simp_all [FilterKind.relation?, FilterKind.entities]

theorem reads_relation {r : Relation} (hr : e.kind.relation? = some r) :
    e.Reads db (Filter.targets db r) (fun ts => .related r ts.flatten)
      fun ts row => db.LinkedTo row r ts := by
  refine .of_round (Filter.gathers_related (entities_relation hr) r) fun values => ?_
  rw [build_relation hr, Filter.lookup, Filter.resolveEach_strict]
  rfl

theorem reads_costType (hk : e.kind = .costType) : e.Reads db e.costType
    (fun xs => .costType (xs.filterMap id) (xs.contains none))
    fun x row => db.CardHas row fun c => c.costType = x :=
  .of_round (hk ▸ Filter.gathers_costType) fun values => by
    rw [build, hk]
    rfl

theorem reads_group (hk : e.kind = .group) : e.Reads db e.group Filter.groups
    fun n row => db.CardHas row fun c => c.group = some n :=
  .of_round (Filter.gathers_number (by rw [hk]; rfl) .group) fun values => by
    rw [build, hk]
    rfl

theorem reads_capacity (hk : e.kind = .capacity) : e.Reads db e.number Filter.capacities
    fun n row => db.CardHas row fun c => c.capacity = some n :=
  .of_round (Filter.gathers_number (by rw [hk]; rfl) .capacity) fun values => by
    rw [build, hk]
    rfl

theorem reads_life (hk : e.kind = .life) : e.Reads db e.number Filter.lives
    fun n row => db.CardHas row fun c => c.life = some n :=
  .of_round (Filter.gathers_number (by rw [hk]; rfl) .life) fun values => by
    rw [build, hk]
    rfl

theorem reads_cost (hk : e.kind = .cost) : e.Reads db e.cost
    (fun xs => Filter.costs (xs.filterMap id) (xs.contains none))
    fun x row => db.CardHas row fun c => c.cost = x.map Filter.CostValue.stored :=
  .of_round (hk ▸ Filter.gathers_cost) fun values => by
    rw [build, hk]
    rfl

theorem reads_expansionRarity (hk : e.kind = .expansionRarity) : e.Reads db
    (fun v => e.rarity v >>= fun x => Filter.rarityTargets db x.1 x.2)
    (fun ts => .related .rarity ts.flatten) fun ts row => db.LinkedTo row .rarity ts :=
  .of_rounds (Filter.gathers_related (by rw [hk]; rfl) .rarity) fun values => by
    simp only [build, hk, Filter.expansionRarities, Filter.resolveEach_strict]
    rfl

theorem reads_disciplineLevel (hk : e.kind = .disciplineLevel) : e.Reads db
    (fun v => e.level v >>= fun x => Filter.levelTargets db x.1 x.2)
    (fun ts => .related .discipline ts.flatten) fun ts row => db.LinkedTo row .discipline ts :=
  .of_rounds (Filter.gathers_related (by rw [hk]; rfl) .discipline) fun values => by
    simp only [build, hk, Filter.disciplineLevels, Filter.resolveEach_strict]
    rfl

/-- The expansion that a value names, or none. -/
def printed (db : Database) (v : String) : Outcome (Option LookupId) :=
  match expansion v with
  | none => .ok none
  | some name => (db.resolve .expansion name).map some

theorem reads_printingExpansion (hk : e.kind = .printingExpansion) : e.Reads db (printed db)
    .printedIn fun x row => db.PrintingHas row fun p => p.expansion = x :=
  .of_round (hk ▸ Filter.gathers_printedIn) fun values => by
    simp only [build, hk, Filter.printings, Filter.resolveEach_strict, List.mapM_map]
    rfl

theorem reads_inSets (hk : e.kind = .inSets) : e.Reads db db.resolveCardSet .inSets
    fun id row => db.SetHas row fun cs => cs.id = id :=
  .of_round (hk ▸ Filter.gathers_inSets) fun values => by
    simp only [build, hk, Filter.contents, Filter.namedSets, Filter.resolveEach_strict]
    rfl

theorem reads_parentSet (hk : e.kind = .parentSet) : e.Reads db db.resolveCardSet .childOf
    fun id row => db.rowParent? row = some id :=
  .of_round (hk ▸ Filter.gathers_childOf) fun values => by
    simp only [build, hk, Filter.childrenOf, Filter.namedSets, Filter.resolveEach_strict]
    rfl

theorem filter_role (role : CardRole) : CardRole.filter db role =
    (Filter.targets db .cardType role.cardType).map fun ts => Filter.ofRole (role, ts) := by
  simp only [CardRole.filter, Filter.ofName, Filter.lookup, Filter.resolveEach_strict,
    Outcome.mapM_singleton]
  cases Filter.targets db .cardType role.cardType with
  | error failure => rfl
  | ok ts => exact congrArg (fun ts => Except.ok (Filter.ofRole (role, ts))) (List.append_nil ts)

theorem reads_role (hk : e.kind = .role) : e.Reads db
    (fun v => CardRole.parse v >>= fun role =>
      (Filter.targets db .cardType role.cardType).map fun ts => (role, ts))
    (fun xs => .role (.any (xs.map Filter.ofRole)))
    fun x row => ∃ c, (Filter.ofRole x).condition db = .ok c ∧ db.satisfies row c :=
  .of_rounds (hk ▸ Filter.gathers_role) fun values => by
    have hplaying : ∀ roles, Filter.playing db roles =
        (roles.mapM fun role => (Filter.targets db .cardType role.cardType).map fun ts =>
          (role, ts)).map fun xs => .role (.any (xs.map Filter.ofRole)) := by
      intro roles
      have hfilter : CardRole.filter db = fun role =>
          ((Filter.targets db .cardType role.cardType).map fun ts => (role, ts)).map Filter.ofRole :=
        funext fun role => by rw [filter_role, Outcome.map_map]; rfl
      rw [Filter.playing, hfilter, Outcome.mapM_map]
      exact Outcome.map_map _ (List.map Filter.ofRole) fun fs => Filter.role (.any fs)
    simp only [build, hk, hplaying]

/-! Lists of values -/

/-- All filters that take lists, apart from the one for counts, read each value by itself. -/
theorem exists_reads (hlist : e.kind.input = .list ∨ e.kind.input = .withList)
    (hcount : e.kind ≠ .cardCount) (db : Database) :
    ∃ (α : Type) (read : String → Outcome α) (make : List α → Filter) (marks : α → Row → Prop),
      e.Reads db read make marks := by
  cases hr : e.kind.relation? with
  | some r => exact ⟨_, _, _, _, reads_relation hr⟩
  | none =>
    cases hk : e.kind with
    | costType => exact ⟨_, _, _, _, reads_costType hk⟩
    | group => exact ⟨_, _, _, _, reads_group hk⟩
    | capacity => exact ⟨_, _, _, _, reads_capacity hk⟩
    | cost => exact ⟨_, _, _, _, reads_cost hk⟩
    | life => exact ⟨_, _, _, _, reads_life hk⟩
    | expansionRarity => exact ⟨_, _, _, _, reads_expansionRarity hk⟩
    | disciplineLevel => exact ⟨_, _, _, _, reads_disciplineLevel hk⟩
    | printingExpansion => exact ⟨_, _, _, _, reads_printingExpansion hk⟩
    | inSets => exact ⟨_, _, _, _, reads_inSets hk⟩
    | parentSet => exact ⟨_, _, _, _, reads_parentSet hk⟩
    | role => exact ⟨_, _, _, _, reads_role hk⟩
    | _ => simp_all [FilterKind.relation?, FilterKind.input]

theorem Reads.build_singleton (h : e.Reads db read make marks) {v : String} {f : Filter} :
    e.build db [v] = .ok f ↔ ∃ x, read v = .ok x ∧ make [x] = f := by
  simp only [h.build_iff, Outcome.mapM_singleton, Outcome.map_eq_ok_iff]
  exact ⟨fun ⟨_, ⟨x, hx, hxs⟩, heq⟩ => ⟨x, hx, hxs ▸ heq⟩, fun ⟨x, hx, heq⟩ => ⟨_, ⟨x, hx, rfl⟩, heq⟩⟩

/-- What is made of a list of values asks of a row that one of them marks it. -/
theorem Reads.exists_condition (h : e.Reads db read make marks) {values : List String} {f : Filter}
    (hf : e.build db values = .ok f) : ∃ c, f.condition db = .ok c ∧
      ∀ row, db.satisfies row c ↔ ∃ v ∈ values, ∃ x, read v = .ok x ∧ marks x row := by
  obtain ⟨xs, hxs, rfl⟩ := (h.build_iff values f).mp hf
  obtain ⟨c, hc, hmarked⟩ := h.marked xs
  refine ⟨c, hc, fun row => ?_⟩
  rw [hmarked]
  constructor
  · rintro ⟨x, hx, hmark⟩
    obtain ⟨v, hv, hread⟩ := Outcome.mem_of_mapM hxs x hx
    exact ⟨v, hv, x, hread, hmark⟩
  · rintro ⟨v, hv, x, hread, hmark⟩
    obtain ⟨y, hy, hread'⟩ := Outcome.exists_of_mapM hxs v hv
    rw [hread] at hread'
    exact ⟨x, Except.ok.inj hread' ▸ hy, hmark⟩

/-- What is made of a list of values is made if something is made of each, and picks the rows that one
of these picks. -/
structure Unites (e : FilterEntry) (db : Database) : Prop where
  accepts : ∀ values, (∀ v ∈ values, ∃ f, e.build db [v] = .ok f) → ∃ f, e.build db values = .ok f
  entities : ∀ values f, e.build db values = .ok f → f.entities = e.kind.entities
  condition : ∀ values f, e.build db values = .ok f → ∃ c, f.condition db = .ok c ∧
    ∀ row, db.satisfies row c ↔
      ∃ v ∈ values, ∃ g d, e.build db [v] = .ok g ∧ g.condition db = .ok d ∧ db.satisfies row d

theorem Reads.unites (h : e.Reads db read make marks) : e.Unites db where
  accepts values hall := by
    have hread : ∀ v ∈ values, ∃ x, read v = .ok x := by
      intro v hv
      obtain ⟨f, hf⟩ := hall v hv
      obtain ⟨x, hx, _⟩ := h.build_singleton.mp hf
      exact ⟨x, hx⟩
    obtain ⟨xs, hxs⟩ := Outcome.exists_mapM hread
    exact ⟨make xs, (h.build_iff values _).mpr ⟨xs, hxs, rfl⟩⟩
  entities values f hf := by
    obtain ⟨xs, _, rfl⟩ := (h.build_iff values f).mp hf
    exact h.entities xs
  condition values f hf := by
    obtain ⟨c, hc, hmarked⟩ := h.exists_condition hf
    refine ⟨c, hc, fun row => (hmarked row).trans ?_⟩
    refine exists_congr fun v => and_congr_right fun _ => ?_
    constructor
    · rintro ⟨x, hx, hmark⟩
      have hg := h.build_singleton.mpr ⟨x, hx, rfl⟩
      obtain ⟨d, hd, hone⟩ := h.exists_condition hg
      exact ⟨_, d, hg, hd, (hone row).mpr ⟨v, List.mem_cons_self, x, hx, hmark⟩⟩
    · rintro ⟨g, d, hg, hd, hsat⟩
      obtain ⟨d', hd', hone⟩ := h.exists_condition hg
      obtain rfl := Except.ok.inj (hd.symm.trans hd')
      obtain ⟨_, hv, hmark⟩ := (hone row).mp hsat
      exact List.mem_singleton.mp hv ▸ hmark

end FilterEntry
end CardBinder
