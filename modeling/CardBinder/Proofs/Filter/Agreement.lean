import CardBinder.Features
import CardBinder.Proofs.Database.Stocked
import CardBinder.Proofs.Filter.Named
import CardBinder.Proofs.Filter.Selection
import CardBinder.Proofs.Grouping
import CardBinder.Proofs.Text.Cut
import Mathlib.Data.List.ProdSigma

/-! Tables of features, filters and groupings agree: the column of an entry marks the cards that the
filter of its name selects, and they are the cards under its heading. -/

namespace CardBinder
variable {db : Database} {e : LookupEntry} {r : Relation} {kind : LookupKind}

/-! Cards by their links -/

namespace Database

/-- The cards that are linked to one of the targets. -/
def linkedCards (db : Database) (r : Relation) (targets : List Nat) : List CardId :=
  (db.cards.map (·.id)).filter fun card => (db.related card r).any targets.contains

theorem selectCards_related (hp : db.InPlace) (r : Relation) (targets : List Nat) :
    (Filter.related r targets).selectCards db = .ok (db.linkedCards r targets) := by
  rw [Filter.selectCards_eq_ok rfl rfl, linkedCards]
  refine congrArg Except.ok (List.filter_congr fun id hid => ?_)
  obtain ⟨c, hc, rfl⟩ := List.mem_map.mp hid
  have hcard : db.card? c.id = some c := hp.card?_eq_some_iff.mpr ⟨hc, rfl⟩
  simp only [satisfies, rowCard?, hcard, Option.any_some]

/-- No card is linked unless it is known. -/
theorem mem_linkedCards (hv : db.CatalogValid) {card : CardId} {targets : List Nat} :
    card ∈ db.linkedCards r targets ↔ (db.related card r).any targets.contains := by
  rw [linkedCards, List.mem_filter, and_iff_right_of_imp]
  intro h
  obtain ⟨n, hn, _⟩ := List.any_eq_true.mp h
  obtain ⟨c, hc, hid⟩ := (hv.linksKnown r _ (mem_related.mp hn)).1
  exact List.mem_map.mpr ⟨c, List.mem_of_getElem? hc, RowId.ext hid⟩

end Database

/-! Columns -/

namespace Database
open CardBinder.Filter

/-- The columns that are not about entries. -/
def plainColumns : List Column :=
  [⟨"group", .group⟩, ⟨"capacity", .capacity⟩, ⟨"pool cost", .cost .pool⟩,
    ⟨"blood cost", .cost .blood⟩, ⟨"conviction cost", .cost .conviction⟩,
    ⟨"advanced", .advanced⟩, ⟨"physical card count", .printings⟩]

/-- The tables whose entries have columns, with the titles of these. -/
def columnTables : List (String × LookupKind × (LookupId → Feature)) :=
  [("discipline", .discipline, .discipline), ("rarity", .rarity, .rarity),
    ("expansion", .expansion, .expansion), ("clan", .clan, .clan),
    ("card type", .cardType, .cardType)]

theorem mem_allColumns {c : Column} : c ∈ db.allColumns ↔ c ∈ plainColumns ∨
    ∃ x ∈ columnTables, ∃ e ∈ db.lookupEntries x.2.1,
      c = ⟨x.1 ++ ": " ++ e.name, x.2.2 e.id⟩ := by
  simp only [allColumns, plainColumns, entryColumns, columnTables, List.mem_append, List.mem_map,
    List.exists_mem_cons_iff, List.not_mem_nil, false_and, exists_false, or_false, or_assoc,
    eq_comm (a := c)]

theorem cutFirst_title {x : String × LookupKind × (LookupId → Feature)} (hx : x ∈ columnTables)
    (name : String) : Text.cutFirst ": " (x.1 ++ ": " ++ name) = some (x.1, name) := by
  have hbare : ∀ x ∈ columnTables, ':' ∉ x.1.toList := by decide
  exact Text.cutFirst_append (show (": " : String).toList = ':' :: [' '] from rfl) (hbare x hx)

/-- A column is named for an entry only if it is the column of the entry. -/
theorem eq_of_mem_allColumns (hv : db.CatalogValid) (hp : db.InPlace)
    {x : String × LookupKind × (LookupId → Feature)} (hx : x ∈ columnTables)
    (he : e ∈ db.lookupEntries x.2.1) {c : Column} (hc : c ∈ db.allColumns)
    (hname : c.name = x.1 ++ ": " ++ e.name) : c = ⟨x.1 ++ ": " ++ e.name, x.2.2 e.id⟩ := by
  rcases mem_allColumns.mp hc with hplain | ⟨y, hy, e', he', rfl⟩
  · have hbare : ∀ c ∈ plainColumns, ':' ∉ c.name.toList := by decide
    exact absurd (hname ▸ hbare c hplain) (by simp)
  · have hcut := cutFirst_title hy e'.name
    rw [show y.1 ++ ": " ++ e'.name = x.1 ++ ": " ++ e.name from hname, cutFirst_title hx] at hcut
    obtain ⟨htitle, hentry⟩ := Prod.mk.inj (Option.some.inj hcut)
    have hone : (columnTables.map Prod.fst).Nodup := by decide
    obtain rfl := List.inj_on_of_nodup_map hone hx hy htitle
    rw [hv.entry_eq_of_name hp he' he hentry.symm]

theorem column_entry (hv : db.CatalogValid) (hp : db.InPlace)
    {x : String × LookupKind × (LookupId → Feature)} (hx : x ∈ columnTables)
    (he : e ∈ db.lookupEntries x.2.1) :
    db.column (x.1 ++ ": " ++ e.name) = .ok ⟨x.1 ++ ": " ++ e.name, x.2.2 e.id⟩ := by
  have hmem : (⟨x.1 ++ ": " ++ e.name, x.2.2 e.id⟩ : Column) ∈ db.allColumns :=
    mem_allColumns.mpr (Or.inr ⟨x, hx, e, he, rfl⟩)
  -- The last column of a name is taken, but only one has this name.
  rw [column]
  split
  · rename_i c hc
    have hname := eq_of_beq (List.find?_some (p := fun c : Column => c.name == x.1 ++ ": " ++ e.name) hc)
    have hfound := List.mem_reverse.mp (List.mem_of_find?_eq_some hc)
    rw [eq_of_mem_allColumns hv hp hx he hfound hname]
  · rename_i hnone
    exact absurd (beq_self_eq_true _) (List.find?_eq_none.mp hnone _ (List.mem_reverse.mpr hmem))

theorem any_contains_iff {ns ts : List Nat} : ns.any ts.contains ↔ ∃ n ∈ ns, n ∈ ts := by
  simp

/-- A column that marks the linked cards has one for them and zero for all others. -/
theorem flag_eq (hv : db.CatalogValid) {card : CardId} {b : Bool} {ts : List Nat}
    (h : b ↔ ∃ n ∈ db.related card r, n ∈ ts) :
    Feature.flag b = if card ∈ db.linkedCards r ts then 1 else 0 := by
  simp only [Feature.flag, mem_linkedCards hv, any_contains_iff, h]

theorem value_clan (hv : db.CatalogValid) (id : LookupId) (card : CardId) :
    (Feature.clan id).value db card = if card ∈ db.linkedCards .clan [id.val] then 1 else 0 :=
  flag_eq hv (by simp [hasRelation_iff])

theorem value_cardType (hv : db.CatalogValid) (id : LookupId) (card : CardId) :
    (Feature.cardType id).value db card =
      if card ∈ db.linkedCards .cardType [id.val] then 1 else 0 :=
  flag_eq hv (by simp [hasRelation_iff])

theorem value_discipline (hv : db.CatalogValid) (id : LookupId) (card : CardId) :
    (Feature.discipline id).value db card =
      if card ∈ db.linkedCards .discipline (disciplineLinks db id) then 1 else 0 := by
  refine flag_eq hv ?_
  simp only [disciplineLinks, List.any_eq_true, Bool.and_eq_true, beq_iff_eq, hasRelation_iff,
    List.mem_map, List.mem_filter]
  constructor
  · rintro ⟨p, hp, hd, hn⟩
    exact ⟨p.id.val, hn, p, ⟨hp, hd⟩, rfl⟩
  · rintro ⟨_, hn, p, ⟨hp, hd⟩, rfl⟩
    exact ⟨p, hp, hd, hn⟩

theorem value_expansion (hv : db.CatalogValid) (hp : db.InPlace) (id : LookupId) (card : CardId) :
    (Feature.expansion id).value db card =
      if card ∈ db.linkedCards .rarity (expansionLinks db id) then 1 else 0 := by
  refine flag_eq hv ?_
  simp only [Feature.hasPair, expansionLinks, List.any_eq_true, Option.any_eq_true, beq_iff_eq,
    List.mem_map, List.mem_filter, hp.rarityPair?_eq_some_iff]
  refine exists_congr fun n => and_congr_right fun _ => exists_congr fun p => ?_
  rw [RowId.ext_iff, and_right_comm]

/-- The columns whose filters go by the same names. -/
def filteredColumns : List (String × LookupKind × Relation) :=
  [("clan", .clan, .clan), ("card type", .cardType, .cardType),
    ("discipline", .discipline, .discipline), ("expansion", .expansion, .rarity)]

/-- The column of an entry has one for the cards that the filter of its name selects, and zero for
all others. -/
theorem featureRows_entry (hv : db.CatalogValid) (hp : db.InPlace)
    {x : String × LookupKind × Relation} (hx : x ∈ filteredColumns)
    (he : e ∈ db.lookupEntries x.2.1) : ∃ f selected, ofName db x.2.2 e.name = .ok f ∧
      f.selectCards db = .ok selected ∧ ∀ cards,
        db.featureRows cards [x.1 ++ ": " ++ e.name] =
          .ok (cards.map fun card => [if card ∈ selected then 1 else 0]) := by
  have hrows : ∀ {feature : LookupId → Feature} {ts : List Nat},
      (x.1, x.2.1, feature) ∈ columnTables →
      (∀ card, (feature e.id).value db card = if card ∈ db.linkedCards x.2.2 ts then 1 else 0) →
      ∀ cards, db.featureRows cards [x.1 ++ ": " ++ e.name] =
        .ok (cards.map fun card => [if card ∈ db.linkedCards x.2.2 ts then 1 else 0]) := by
    intro feature ts htable hvalue cards
    have hcolumn := column_entry hv hp htable he
    simp only [featureRows, List.mapM_cons, hcolumn, List.mapM_nil]
    exact congrArg Except.ok (List.map_congr_left fun card _ => congrArg ([·]) (hvalue card))
  simp only [filteredColumns, List.mem_cons, List.not_mem_nil, or_false] at hx
  rcases hx with rfl | rfl | rfl | rfl
  · exact ⟨_, _, ofName_entry hv rfl he, selectCards_related hp _ _,
      hrows (by simp [columnTables]) (value_clan hv e.id)⟩
  · exact ⟨_, _, ofName_entry hv rfl he, selectCards_related hp _ _,
      hrows (by simp [columnTables]) (value_cardType hv e.id)⟩
  · exact ⟨_, _, ofName_discipline hv he, selectCards_related hp _ _,
      hrows (by simp [columnTables]) (value_discipline hv e.id)⟩
  · exact ⟨_, _, ofName_expansion hv he, selectCards_related hp _ _,
      hrows (by simp [columnTables]) (value_expansion hv hp e.id)⟩

end Database

/-! Groupings -/

namespace Grouping
open Database CardBinder.Filter

/-- The groupings by entries, or by pairs, that cards are linked to. -/
def linked : List Grouping :=
  [.cardType, .sect, .title, .artist, .keyword, .expansion, .disciplineLevel]

def levelHeading (name : String) (level : DisciplineLevel) : String :=
  name ++ " (" ++ level.name ++ ")"

/-- The filter for each heading of a grouping by what cards are linked to. -/
def filters (db : Database) : Grouping → List (String × Outcome Filter)
  | .cardType => byName .cardType .cardType
  | .sect => byName .sect .sect
  | .title => byName .title .title
  | .artist => byName .artist .artist
  | .keyword => byName .keyword .keyword
  | .expansion => byName .expansion .rarity
  | .disciplineLevel =>
    (List.product (db.lookupEntries .discipline) DisciplineLevel.all).map fun x =>
      (levelHeading x.1.name x.2, Filter.disciplineLevels db [(x.1.name, x.2)] true)
  | _ => []
where
  byName (kind : LookupKind) (r : Relation) : List (String × Outcome Filter) :=
    (db.lookupEntries kind).map fun e => (e.name, Filter.ofName db r e.name)

/-- Groups are what filters select: for each heading the cards of its filter, and without a heading
the cards that none of them selects. -/
structure MadeBy (db : Database) (filters : List (String × Outcome Filter))
    (groups : List CardGroup) : Prop where
  sorted : CardGroup.Sorted groups
  filled : ∀ g ∈ groups, g.cards ≠ []
  named : ∀ g ∈ groups, ∀ heading ∈ g.heading, ∃ x ∈ filters, x.1 = heading
  selected : ∀ x ∈ filters, ∃ f, x.2 = .ok f ∧
    f.selectCards db = .ok (CardGroup.under (some x.1) groups)
  others : CardGroup.under none groups = (db.cards.map (·.id)).filter fun card =>
    filters.all fun x => !(CardGroup.under (some x.1) groups).contains card

/-- Cards have a heading as they are linked to one of the targets that go with it. -/
structure Marks (db : Database) (grouping : Grouping) (r : Relation)
    (named : List (String × List Nat)) : Prop where
  once : (named.map Prod.fst).Nodup
  iff : ∀ c ∈ db.cards, ∀ heading, heading ∈ grouping.headings db c ↔
    ∃ x ∈ named, x.1 = heading ∧ ∃ n ∈ db.related c.id r, n ∈ x.2

variable {grouping : Grouping} {named : List (String × List Nat)}

theorem Marks.under_some (h : Marks db grouping r named) (hp : db.InPlace)
    {x : String × List Nat} (hx : x ∈ named) :
    CardGroup.under (some x.1) (db.groupCards grouping (db.cards.map (·.id))) =
      db.linkedCards r x.2 := by
  rw [(groupCards_spec db grouping _).2.2, linkedCards]
  refine List.filter_congr fun card hcard => ?_
  obtain ⟨c, hc, rfl⟩ := List.mem_map.mp hcard
  rw [Bool.eq_iff_iff, standsUnder, hp.card?_eq_some_iff.mpr ⟨hc, rfl⟩, Option.any_some,
    List.contains_iff_mem, h.iff c hc, any_contains_iff]
  constructor
  · rintro ⟨y, hy, heq, hn⟩
    obtain rfl := List.inj_on_of_nodup_map h.once hy hx heq
    exact hn
  · exact fun hn => ⟨x, hx, rfl, hn⟩

theorem Marks.under_none (h : Marks db grouping r named) (hv : db.CatalogValid) (hp : db.InPlace) :
    CardGroup.under none (db.groupCards grouping (db.cards.map (·.id))) =
      (db.cards.map (·.id)).filter fun card =>
        named.all fun x => !(db.linkedCards r x.2).contains card := by
  rw [(groupCards_spec db grouping _).2.2]
  refine List.filter_congr fun card hcard => ?_
  obtain ⟨c, hc, rfl⟩ := List.mem_map.mp hcard
  rw [Bool.eq_iff_iff, standsUnder, hp.card?_eq_some_iff.mpr ⟨hc, rfl⟩, Option.any_some,
    List.isEmpty_iff, List.eq_nil_iff_forall_not_mem]
  simp only [h.iff c hc, List.all_eq_true, Bool.not_eq_true', List.contains_eq_mem,
    decide_eq_false_iff_not, mem_linkedCards hv, any_contains_iff]
  constructor
  · intro hnone x hx hn
    exact hnone x.1 ⟨x, hx, rfl, hn⟩
  · rintro hall _ ⟨x, hx, rfl, hn⟩
    exact hall x hx hn

theorem Marks.madeBy (h : Marks db grouping r named) (hv : db.CatalogValid) (hp : db.InPlace)
    {filters : List (String × Outcome Filter)}
    (hfilters : filters = named.map fun x => (x.1, .ok (.related r x.2))) :
    MadeBy db filters (db.groupCards grouping (db.cards.map (·.id))) := by
  obtain ⟨hsorted, hfilled, hunder⟩ := groupCards_spec db grouping (db.cards.map (·.id))
  subst hfilters
  refine ⟨hsorted, hfilled, ?_, ?_, ?_⟩
  · intro g hg heading hheading
    obtain ⟨card, rest, hcards⟩ := List.exists_cons_of_ne_nil (hfilled g hg)
    have hmem : card ∈ CardGroup.under (some heading) (db.groupCards grouping (db.cards.map (·.id))) := by
      rw [← Option.mem_def.mp hheading, hsorted.under_heading hg, hcards]
      exact List.mem_cons_self
    rw [hunder] at hmem
    obtain ⟨hcard, hstands⟩ := List.mem_filter.mp hmem
    obtain ⟨c, hc, rfl⟩ := List.mem_map.mp hcard
    rw [standsUnder, hp.card?_eq_some_iff.mpr ⟨hc, rfl⟩, Option.any_some, List.contains_iff_mem,
      h.iff c hc] at hstands
    obtain ⟨x, hx, heq, _⟩ := hstands
    exact ⟨_, List.mem_map_of_mem hx, heq⟩
  · intro y hy
    obtain ⟨x, hx, rfl⟩ := List.mem_map.mp hy
    exact ⟨_, rfl, by rw [h.under_some hp hx, selectCards_related hp]⟩
  · rw [h.under_none hv hp]
    refine List.filter_congr fun card _ => ?_
    rw [List.all_map, Bool.eq_iff_iff, List.all_eq_true, List.all_eq_true]
    exact forall₂_congr fun x hx => by rw [Function.comp_apply, h.under_some hp hx]

theorem entries_nodup (hp : db.InPlace) (kind : LookupKind) : (db.lookupEntries kind).Nodup :=
  List.Nodup.of_map _ (hp.entries kind).inOrder.nodup

theorem names_nodup (hv : db.CatalogValid) (hp : db.InPlace) (kind : LookupKind) :
    ((db.lookupEntries kind).map (·.name)).Nodup :=
  (entries_nodup hp kind).map_on fun _ he _ he' h => hv.entry_eq_of_name hp he he' h

theorem marks_entries (hv : db.CatalogValid) (hp : db.InPlace) (hr : r.lookupKind? = some kind)
    (hg : ∀ c, grouping.headings db c = db.relatedNames c.id r) :
    Marks db grouping r ((db.lookupEntries kind).map fun e => (e.name, [e.id.val])) := by
  constructor
  case once =>
    rw [List.map_map]
    exact names_nodup hv hp kind
  case iff =>
    intro c _ heading
    rw [hg, relatedNames, hr]
    simp only [List.mem_filterMap, hp.lookupName_eq_some_iff, List.mem_map,
      exists_exists_and_eq_and, List.mem_singleton]
    constructor
    · rintro ⟨n, hn, e, he, hid, rfl⟩
      exact ⟨e, he, rfl, n, hn, congrArg RowId.val hid.symm⟩
    · rintro ⟨e, he, rfl, _, hn, rfl⟩
      exact ⟨_, hn, e, he, rfl, rfl⟩

theorem marks_expansion (hv : db.CatalogValid) (hp : db.InPlace) :
    Marks db .expansion .rarity
      ((db.lookupEntries .expansion).map fun e => (e.name, expansionLinks db e.id)) := by
  constructor
  case once =>
    rw [List.map_map]
    exact names_nodup hv hp .expansion
  case iff =>
    intro c _ heading
    simp only [headings, expansionHeadings, List.mem_filterMap, Option.bind_eq_bind,
      Option.bind_eq_some_iff, hp.lookupName_eq_some_iff, hp.rarityPair?_eq_some_iff,
      expansionLinks, List.mem_map, exists_exists_and_eq_and, List.mem_filter, beq_iff_eq]
    constructor
    · rintro ⟨n, hn, p, ⟨hpair, hid⟩, e, he, heq, rfl⟩
      exact ⟨e, he, rfl, n, hn, p, ⟨hpair, heq.symm⟩, congrArg RowId.val hid⟩
    · rintro ⟨e, he, rfl, _, hn, p, ⟨hpair, heq⟩, rfl⟩
      exact ⟨_, hn, p, ⟨hpair, rfl⟩, e, he, heq.symm, rfl⟩

/-- The level is the last thing that a heading says, and both levels are of one length. -/
theorem levelHeading_inj {name name' : String} {level level' : DisciplineLevel}
    (h : levelHeading name level = levelHeading name' level') : name = name' ∧ level = level' := by
  have hlength : ∀ level : DisciplineLevel,
      (" (".toList ++ (level.name.toList ++ ")".toList)).length = 11 := by
    intro level
    cases level <;> rfl
  simp only [levelHeading, String.append_assoc, ← String.toList_inj, String.toList_append] at h
  obtain ⟨hname, hlevel⟩ := List.append_inj' h ((hlength level).trans (hlength level').symm)
  refine ⟨String.toList_inj.mp hname, ?_⟩
  cases level <;> cases level' <;> first | rfl | exact absurd hlevel (by decide)

theorem marks_disciplineLevel (hv : db.CatalogValid) (hp : db.InPlace) :
    Marks db .disciplineLevel .discipline
      ((List.product (db.lookupEntries .discipline) DisciplineLevel.all).map fun x =>
        (levelHeading x.1.name x.2, levelLinks db x.1.id x.2)) := by
  constructor
  case once =>
    rw [List.map_map]
    refine ((entries_nodup hp .discipline).product (by decide)).map_on ?_
    intro x hx y hy h
    obtain ⟨hname, hlevel⟩ := levelHeading_inj h
    have hentry := hv.entry_eq_of_name hp (List.mem_product.mp hx).1
      (List.mem_product.mp hy).1 hname
    exact Prod.ext hentry hlevel
  case iff =>
    intro c _ heading
    simp only [headings, disciplineHeadings, disciplineHeading, if_true, List.mem_filterMap,
      Option.bind_eq_bind, Option.bind_eq_some_iff, hp.lookupName_eq_some_iff,
      hp.disciplinePair?_eq_some_iff, List.mem_map, exists_exists_and_eq_and,
      mem_levelLinks hv]
    constructor
    · rintro ⟨n, hn, p, ⟨hpair, hid⟩, _, ⟨e, he, heq, rfl⟩, hheading⟩
      have hlevel : p.level ∈ DisciplineLevel.all := by cases p.level <;> decide
      exact ⟨(e, p.level), List.mem_product.mpr ⟨he, hlevel⟩, Option.some.inj hheading, n, hn, p,
        hpair, heq.symm, rfl, congrArg RowId.val hid⟩
    · rintro ⟨⟨e, level⟩, hx, rfl, _, hn, p, hpair, heq, rfl, rfl⟩
      exact ⟨_, hn, p, ⟨hpair, rfl⟩, _, ⟨e, (List.mem_product.mp hx).1, heq.symm, rfl⟩, rfl⟩

/-- The groups of all cards are what the filters of their headings select. -/
theorem madeBy_linked (hv : db.CatalogValid) (hp : db.InPlace) (hg : grouping ∈ linked) :
    MadeBy db (filters db grouping) (db.groupCards grouping (db.cards.map (·.id))) := by
  have hentries : ∀ {r : Relation} {kind : LookupKind}, r.lookupKind? = some kind →
      filters.byName db kind r =
        ((db.lookupEntries kind).map fun e => (e.name, [e.id.val])).map fun x =>
          (x.1, .ok (.related r x.2)) := by
    intro r kind hr
    rw [filters.byName, List.map_map]
    exact List.map_congr_left fun e he => congrArg _ (ofName_entry hv hr he)
  simp only [linked, List.mem_cons, List.not_mem_nil, or_false] at hg
  rcases hg with rfl | rfl | rfl | rfl | rfl | rfl | rfl
  · exact (marks_entries hv hp (r := .cardType) rfl fun _ => rfl).madeBy hv hp (hentries rfl)
  · exact (marks_entries hv hp (r := .sect) rfl fun _ => rfl).madeBy hv hp (hentries rfl)
  · exact (marks_entries hv hp (r := .title) rfl fun _ => rfl).madeBy hv hp (hentries rfl)
  · exact (marks_entries hv hp (r := .artist) rfl fun _ => rfl).madeBy hv hp (hentries rfl)
  · exact (marks_entries hv hp (r := .keyword) rfl fun _ => rfl).madeBy hv hp (hentries rfl)
  · refine (marks_expansion hv hp).madeBy hv hp ?_
    rw [filters, filters.byName, List.map_map]
    exact List.map_congr_left fun e he => congrArg _ (ofName_expansion hv he)
  · refine (marks_disciplineLevel hv hp).madeBy hv hp ?_
    rw [filters, List.map_map]
    refine List.map_congr_left fun x hx => congrArg _ ?_
    exact disciplineLevels_entry hv (List.mem_product.mp hx).1 x.2

end Grouping

/-! The three together -/

/-- The columns and the groups of a database are told by its filters. -/
structure Database.Agrees (db : Database) : Prop where
  columns : ∀ x ∈ filteredColumns, ∀ e ∈ db.lookupEntries x.2.1, ∃ f selected,
    Filter.ofName db x.2.2 e.name = .ok f ∧ f.selectCards db = .ok selected ∧
      ∀ cards, db.featureRows cards [x.1 ++ ": " ++ e.name] =
        .ok (cards.map fun card => [if card ∈ selected then 1 else 0])
  groups : ∀ grouping ∈ Grouping.linked, Grouping.MadeBy db (Grouping.filters db grouping)
    (db.groupCards grouping (db.cards.map (·.id)))

/-- Tables, filters and groupings agree, whatever catalogs were loaded and whatever was done with card
sets, as long as no table has run out of numbers. -/
theorem Database.Stocked.agrees (h : db.Stocked) (hf : db.Fits) : db.Agrees where
  columns _ hx _ he :=
    featureRows_entry h.orderly.toCatalogValid (h.inPlace hf) hx he
  groups _ hg := Grouping.madeBy_linked h.orderly.toCatalogValid (h.inPlace hf) hg

theorem Database.agrees_shelf : shelf.Stocked ∧ shelf.Fits ∧ shelf.Agrees ∧
    shelf.featureRows [⟨0⟩, ⟨1⟩] ["clan: Ventrue", "discipline: Potence", "expansion: Jyhad"] =
      .ok [[1, 1, 1], [0, 1, 0]] ∧
    shelf.groupCards .disciplineLevel [⟨0⟩, ⟨1⟩] =
      [⟨some "Celerity (inferior)", [⟨0⟩]⟩, ⟨some "Potence (inferior)", [⟨1⟩]⟩,
        ⟨some "Potence (superior)", [⟨0⟩]⟩] ∧
    shelf.groupCards .title [⟨0⟩, ⟨1⟩] = [⟨none, [⟨1⟩]⟩, ⟨some "Prince", [⟨0⟩]⟩] :=
  ⟨stocked_shelf, fits_shelf, stocked_shelf.agrees fits_shelf, by decide +kernel, by decide +kernel,
    by decide +kernel⟩

end CardBinder
