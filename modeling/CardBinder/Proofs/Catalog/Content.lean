import CardBinder.Proofs.Catalog.Holdings
import CardBinder.Proofs.Lookup.Reload

/-! A database made of a catalog: a row for each record, and links to what the names of the record lead
to once everything is loaded. Names keep what they lead to, so links made early are still right. -/

namespace CardBinder
open LookupTable (Call)

/-- One thing that a card record names. -/
inductive Tie where
  | entry (r : Relation) (kind : LookupKind) (name : String)
  | discipline (d : DisciplineRecord)
  | rarity (x : RarityRecord)

def Tie.relation : Tie → Relation
  | .entry r _ _ => r
  | .discipline _ => .discipline
  | .rarity _ => .rarity

/-- The lookup entries that are asked for, in order. -/
def Tie.namings : Tie → List LookupRecord
  | .entry _ kind name => [⟨kind, name, none⟩]
  | .discipline d => [⟨.discipline, d.name, none⟩]
  | .rarity x => [⟨.expansion, x.expansion, none⟩, ⟨.rarity, x.rarity, none⟩]

/-- What a tie leads to: an entry, or the pair of its entries. -/
def Tie.target? (db : Database) : Tie → Option Nat
  | .entry _ kind name => (db.findLookup kind name).map (·.val)
  | .discipline d => do
    let discipline ← db.findLookup .discipline d.name
    (db.findDisciplinePair discipline d.level).map (·.val)
  | .rarity x => do
    let expansion ← db.findLookup .expansion x.expansion
    let rarity ← db.findLookup .rarity x.rarity
    (db.findRarityPair expansion rarity).map (·.val)

namespace CardRecord

/-- Everything that a record names, in the order of its lists. -/
def ties (c : CardRecord) : List Tie :=
  c.cardTypes.map (.entry .cardType .cardType) ++ c.clans.map (.entry .clan .clan) ++
    c.creeds.map (.entry .creed .creed) ++ c.virtues.map (.entry .virtue .virtue) ++
    c.sects.map (.entry .sect .sect) ++ c.titles.map (.entry .title .title) ++
    c.artists.map (.entry .artist .artist) ++ c.keywords.map (.entry .keyword .keyword) ++
    c.rulings.map (.entry .ruling .ruling) ++ c.disciplines.map .discipline ++
    c.rarities.map .rarity

/-- The row of the record at a place. -/
def row (place : Nat) (c : CardRecord) : Card where
  id := .ofPlace place
  canonicalName := canonicalName c.name
  name := Text.trim c.name
  text := c.text
  searchText := String.ofList (c.text.toList.filter fun x => x ≠ '\x7b' ∧ x ≠ '\x7d')
  group := c.group
  capacity := c.capacity
  cost := c.cost
  costType := c.costType
  advanced := c.advanced
  life := c.life

end CardRecord

namespace Catalog

/-- The lookup entries that are asked for while a catalog is loaded, in order. -/
def namings (catalog : Catalog) : List LookupRecord :=
  catalog.lookups ++ catalog.cards.flatMap fun c => c.ties.flatMap Tie.namings

/-- What the table of a kind is asked for, in order. -/
def calls (kind : LookupKind) (rs : List LookupRecord) : List Call :=
  (rs.filter (·.kind = kind)).map fun r => (r.name, r.otherName)

/-- A later record has the key of an earlier one. -/
def Repeats (records : List CardRecord) (failure : Failure) : Prop :=
  ∃ (i j : Nat) (c c' : CardRecord), i < j ∧ records[i]? = some c ∧ records[j]? = some c' ∧
    canonicalName c.name = canonicalName c'.name ∧ failure = .duplicateCard (Text.trim c'.name)

theorem Repeats.not_nodup {records : List CardRecord} {failure : Failure}
    (h : Repeats records failure) : ¬ (records.map fun c => canonicalName c.name).Nodup := by
  obtain ⟨i, j, c, c', hlt, hi, hj, heq, _⟩ := h
  intro hn
  have hsame : (records.map fun c => canonicalName c.name)[i]? =
      (records.map fun c => canonicalName c.name)[j]? := by
    simp only [List.getElem?_map, hi, hj, Option.map_some, heq]
  obtain ⟨hilt, _⟩ := List.getElem?_eq_some_iff.mp hi
  have := (List.getElem?_inj (by simpa using hilt) hn).mp hsame
  omega

end Catalog

namespace Database

/-- The cards are those of the records, and each is linked to what its record names and to nothing
else. -/
structure Follows (db : Database) (records : List CardRecord) : Prop where
  cards : db.cards = records.mapIdx CardRecord.row
  named : ∀ c ∈ records, ∀ t ∈ c.ties, (t.target? db).isSome
  related : ∀ card r n, n ∈ db.related card r ↔ ∃ (i : Nat) (c : CardRecord),
    records[i]? = some c ∧ card = .ofPlace i ∧ ∃ t ∈ c.ties, t.relation = r ∧ t.target? db = some n

/-- The lookup tables are made by the names of the catalog in their order, have each name once, and
what a name led to at any time it still leads to. -/
structure Names (db : Database) (catalog : Catalog) : Prop where
  tables : ∀ kind, db.lookupTable kind = .ofCalls (Catalog.calls kind catalog.namings)
  once : ∀ kind, ((db.lookupEntries kind).map fun e => canonicalName e.name).Nodup
  steady : ∀ kind before after, Catalog.calls kind catalog.namings = before ++ after →
    ∀ name id, (LookupTable.ofCalls before).find name = some id →
      db.findLookup kind name = some id

/-- Whatever a name, or a pair of entries, led to it still leads to. -/
structure Remembers (db db' : Database) : Prop where
  names : ∀ kind name id, db.findLookup kind name = some id → db'.findLookup kind name = some id
  disciplinePairs : ∀ d l id, db.findDisciplinePair d l = some id →
    db'.findDisciplinePair d l = some id
  rarityPairs : ∀ e r id, db.findRarityPair e r = some id → db'.findRarityPair e r = some id

variable {db db' : Database} {card : CardId} {records : List CardRecord} {n : Nat}

/-! What is remembered -/

theorem Remembers.refl (db : Database) : Remembers db db :=
  ⟨fun _ _ _ h => h, fun _ _ _ h => h, fun _ _ _ h => h⟩

theorem Remembers.trans {db'' : Database} (h : Remembers db db') (h' : Remembers db' db'') :
    Remembers db db'' where
  names kind name id := h'.names kind name id ∘ h.names kind name id
  disciplinePairs d l id := h'.disciplinePairs d l id ∘ h.disciplinePairs d l id
  rarityPairs e r id := h'.rarityPairs e r id ∘ h.rarityPairs e r id

theorem remembers_addLookup (db : Database) (kind : LookupKind) (name : String)
    (other : Option String) : Remembers db (db.addLookup kind name other).1 where
  names kind' name' id h := by
    rw [findLookup, lookupTable_addLookup]
    split
    · rename_i heq
      subst heq
      exact LookupTable.findKey_getOrCreate_of_some h
    · exact h
  disciplinePairs _ _ _ h := h
  rarityPairs _ _ _ h := h

theorem remembers_addDisciplinePair (db : Database) (d : LookupId) (l : DisciplineLevel) :
    Remembers db (db.addDisciplinePair d l).1 := by
  unfold addDisciplinePair
  split
  · exact .refl db
  · refine ⟨fun _ _ _ h => h, fun d' l' id h => ?_, fun _ _ _ h => h⟩
    obtain ⟨p, hp, rfl⟩ := Option.map_eq_some_iff.mp h
    simp only [findDisciplinePair, List.find?_append, hp, Option.some_or, Option.map_some]

theorem remembers_addRarityPair (db : Database) (e r : LookupId) :
    Remembers db (db.addRarityPair e r).1 := by
  unfold addRarityPair
  split
  · exact .refl db
  · refine ⟨fun _ _ _ h => h, fun _ _ _ h => h, fun e' r' id h => ?_⟩
    obtain ⟨p, hp, rfl⟩ := Option.map_eq_some_iff.mp h
    simp only [findRarityPair, List.find?_append, hp, Option.some_or, Option.map_some]

theorem remembers_link (db : Database) (card : CardId) (r : Relation) (n : Nat) :
    Remembers db (db.link card r n) :=
  ⟨fun _ _ _ h => h, fun _ _ _ h => h, fun _ _ _ h => h⟩

theorem findLookup_addLookup (db : Database) (kind : LookupKind) (name : String)
    (other : Option String) :
    (db.addLookup kind name other).1.findLookup kind name =
      some (db.addLookup kind name other).2 := by
  rw [findLookup, lookupTable_addLookup, if_pos rfl]
  exact LookupTable.find_getOrCreate_self

theorem findDisciplinePair_addDisciplinePair (db : Database) (d : LookupId) (l : DisciplineLevel) :
    (db.addDisciplinePair d l).1.findDisciplinePair d l = some (db.addDisciplinePair d l).2 := by
  unfold addDisciplinePair
  cases hf : db.findDisciplinePair d l with
  | some id => exact hf
  | none =>
    have hnone := Option.map_eq_none_iff.mp hf
    simp [findDisciplinePair, List.find?_append, hnone]

theorem findRarityPair_addRarityPair (db : Database) (e r : LookupId) :
    (db.addRarityPair e r).1.findRarityPair e r = some (db.addRarityPair e r).2 := by
  unfold addRarityPair
  cases hf : db.findRarityPair e r with
  | some id => exact hf
  | none =>
    have hnone := Option.map_eq_none_iff.mp hf
    simp [findRarityPair, List.find?_append, hnone]

end Database

/-! One tie -/

/-- The database once a tie leads somewhere, and where it leads. -/
def Tie.settle (db : Database) : Tie → Database × Nat
  | .entry _ kind name => ((db.addLookup kind name none).1, (db.addLookup kind name none).2.val)
  | .discipline d =>
    let (db, id) := db.addLookup .discipline d.name none
    ((db.addDisciplinePair id d.level).1, (db.addDisciplinePair id d.level).2.val)
  | .rarity x =>
    let (db, id) := db.addLookup .expansion x.expansion none
    let (db, id') := db.addLookup .rarity x.rarity none
    ((db.addRarityPair id id').1, (db.addRarityPair id id').2.val)

namespace Database
variable {db db' : Database} {card : CardId} {records : List CardRecord} {n : Nat} {t : Tie}

def linkTie (card : CardId) (db : Database) (t : Tie) : Database :=
  (t.settle db).1.link card t.relation (t.settle db).2

/-- A record is linked by its ties, one after the other. -/
theorem linkRecord_eq (db : Database) (card : CardId) (c : CardRecord) :
    db.linkRecord card c = c.ties.foldl (linkTie card) db := by
  simp only [CardRecord.ties, List.foldl_append, List.foldl_map]
  rfl

theorem remembers_settle (db : Database) (t : Tie) : Remembers db (t.settle db).1 := by
  cases t with
  | entry r kind name => exact remembers_addLookup db kind name none
  | discipline d =>
    exact (remembers_addLookup db .discipline d.name none).trans
      (remembers_addDisciplinePair _ _ d.level)
  | rarity x =>
    exact ((remembers_addLookup db .expansion x.expansion none).trans
      (remembers_addLookup _ .rarity x.rarity none)).trans (remembers_addRarityPair _ _ _)

theorem target?_settle (db : Database) (t : Tie) :
    t.target? (t.settle db).1 = some (t.settle db).2 := by
  cases t with
  | entry r kind name => simp [Tie.target?, Tie.settle, findLookup_addLookup]
  | discipline d =>
    have hd := findLookup_addLookup db .discipline d.name none
    have hpair := remembers_addDisciplinePair (db.addLookup .discipline d.name none).1
      (db.addLookup .discipline d.name none).2 d.level
    simp only [Tie.target?, Tie.settle, hpair.names _ _ _ hd, Option.bind_eq_bind,
      Option.bind_some, findDisciplinePair_addDisciplinePair, Option.map_some]
  | rarity x =>
    have he := findLookup_addLookup db .expansion x.expansion none
    have hr := findLookup_addLookup (db.addLookup .expansion x.expansion none).1 .rarity x.rarity none
    have he' := (remembers_addLookup _ .rarity x.rarity none).names _ _ _ he
    have hpair := remembers_addRarityPair
      ((db.addLookup .expansion x.expansion none).1.addLookup .rarity x.rarity none).1
      (db.addLookup .expansion x.expansion none).2
      ((db.addLookup .expansion x.expansion none).1.addLookup .rarity x.rarity none).2
    simp only [Tie.target?, Tie.settle, hpair.names _ _ _ he', hpair.names _ _ _ hr,
      Option.bind_eq_bind, Option.bind_some, findRarityPair_addRarityPair, Option.map_some]

theorem Remembers.target? (h : Remembers db db') (ht : t.target? db = some n) :
    t.target? db' = some n := by
  cases t with
  | entry r kind name =>
    obtain ⟨id, hid, rfl⟩ := Option.map_eq_some_iff.mp ht
    simp [Tie.target?, h.names _ _ _ hid]
  | discipline d =>
    obtain ⟨discipline, hd, ht⟩ := Option.bind_eq_some_iff.mp ht
    obtain ⟨id, hid, rfl⟩ := Option.map_eq_some_iff.mp ht
    simp [Tie.target?, h.names _ _ _ hd, h.disciplinePairs _ _ _ hid]
  | rarity x =>
    obtain ⟨expansion, he, ht⟩ := Option.bind_eq_some_iff.mp ht
    obtain ⟨rarity, hr, ht⟩ := Option.bind_eq_some_iff.mp ht
    obtain ⟨id, hid, rfl⟩ := Option.map_eq_some_iff.mp ht
    simp [Tie.target?, h.names _ _ _ he, h.names _ _ _ hr, h.rarityPairs _ _ _ hid]

/-- Settling a tie adds names and pairs only. -/
theorem settle_tables (db : Database) (t : Tie) :
    (t.settle db).1.cards = db.cards ∧ (t.settle db).1.relations = db.relations ∧
      (t.settle db).1.lookups = (t.namings.foldl addLookupRecord db).lookups := by
  cases t with
  | entry r kind name => exact ⟨rfl, rfl, rfl⟩
  | discipline d =>
    simp only [Tie.settle, addDisciplinePair]
    split <;> exact ⟨rfl, rfl, rfl⟩
  | rarity x =>
    simp only [Tie.settle, addRarityPair]
    split <;> exact ⟨rfl, rfl, rfl⟩

theorem mem_related_link {r r' : Relation} {card' : CardId} {m : Nat} :
    m ∈ (db.link card r n).related card' r' ↔
      (card' = card ∧ r' = r ∧ m = n) ∨ m ∈ db.related card' r' := by
  rw [mem_related, mem_related, link, relation_set]
  split
  · rename_i heq
    subst heq
    rw [LinkTable.insert, LinkTable.mem_insertInto, Link.mk.injEq]
    simp
  · rename_i hne
    simp [Ne.symm hne]

theorem target?_link (db : Database) (card : CardId) (r : Relation) (n : Nat) (t : Tie) :
    t.target? (db.link card r n) = t.target? db := by
  cases t <;> rfl

theorem remembers_linkTie (card : CardId) (db : Database) (t : Tie) :
    Remembers db (linkTie card db t) :=
  (remembers_settle db t).trans (remembers_link _ card t.relation _)

theorem target?_linkTie (card : CardId) (db : Database) (t : Tie) :
    t.target? (linkTie card db t) = some (t.settle db).2 := by
  rw [linkTie, target?_link, target?_settle]

/-- What a tie leads to is not changed by what is loaded later. -/
theorem Remembers.target?_eq (h : Remembers db db') (ht : (t.target? db).isSome) :
    t.target? db' = t.target? db := by
  obtain ⟨n, hn⟩ := Option.isSome_iff_exists.mp ht
  rw [hn, h.target? hn]

/-! One record -/

theorem remembers_linkTies (card : CardId) (ts : List Tie) (db : Database) :
    Remembers db (ts.foldl (linkTie card) db) :=
  List.foldlRecOn (motive := Remembers db) ts (linkTie card) (.refl db)
    fun db' h t _ => h.trans (remembers_linkTie card db' t)

theorem cards_linkTies (card : CardId) (ts : List Tie) (db : Database) :
    (ts.foldl (linkTie card) db).cards = db.cards := by
  induction ts generalizing db with
  | nil => rfl
  | cons t ts ih => exact (ih _).trans (settle_tables db t).1

theorem named_linkTies (card : CardId) (ts : List Tie) (db : Database) :
    ∀ t ∈ ts, (t.target? (ts.foldl (linkTie card) db)).isSome := by
  induction ts generalizing db with
  | nil => simp
  | cons t ts ih =>
    refine List.forall_mem_cons.mpr ⟨?_, ih _⟩
    have ht := (remembers_linkTies card ts (linkTie card db t)).target? (target?_linkTie card db t)
    rw [List.foldl_cons, ht]
    rfl

/-- After a run of ties the card is linked to what they lead to then, and nothing else has changed. -/
theorem mem_related_linkTies {r : Relation} {card' : CardId} (ts : List Tie) (db : Database) :
    n ∈ (ts.foldl (linkTie card) db).related card' r ↔
      (card' = card ∧ ∃ t ∈ ts, t.relation = r ∧
        t.target? (ts.foldl (linkTie card) db) = some n) ∨ n ∈ db.related card' r := by
  induction ts generalizing db with
  | nil => simp
  | cons t ts ih =>
    have ht := (remembers_linkTies card ts (linkTie card db t)).target? (target?_linkTie card db t)
    have hstep : n ∈ (linkTie card db t).related card' r ↔
        (card' = card ∧ t.relation = r ∧ some (t.settle db).2 = some n) ∨
          n ∈ db.related card' r := by
      have hsame : (t.settle db).1.related card' r = db.related card' r := by
        rw [related, related, relation, relation, (settle_tables db t).2.1]
      rw [linkTie, mem_related_link, hsame, eq_comm (a := r), eq_comm (a := n), Option.some.injEq]
    rw [List.foldl_cons, ih, hstep, List.exists_mem_cons_iff, ht, ← or_assoc, ← and_or_left]
    exact or_congr_left (and_congr_right' or_comm)

/-! All records -/

theorem row_eq (c : CardRecord) (place : Nat) :
    ({ cardOfRecord c with id := .ofPlace place } : Card) = c.row place := by
  simp [cardOfRecord, CardRecord.row, CardBinder.searchText, bne, beq_eq_decide]

theorem getElem?_concat_eq_some_iff {α : Type} {xs : List α} {x y : α} {i : Nat} :
    (xs ++ [x])[i]? = some y ↔ xs[i]? = some y ∨ i = xs.length ∧ y = x := by
  rcases Nat.lt_trichotomy i xs.length with hi | hi | hi
  · simp [List.getElem?_append_left hi, Nat.ne_of_lt hi]
  · simp [hi, eq_comm]
  · have hlen : xs.length ≤ i := Nat.le_of_lt hi
    simp [List.getElem?_append_right hlen, Nat.ne_of_gt hi, List.getElem?_eq_none hlen,
      Nat.sub_ne_zero_of_lt hi]

theorem pushCard_ok {c : Card} {id : CardId} (h : db.pushCard c = .ok (db', id)) :
    db.cardWithKey? c.canonicalName = none ∧ id = .ofPlace db.cards.length ∧
      db' = { db with cards := db.cards ++ [{ c with id := .ofPlace db.cards.length }] } := by
  rw [pushCard] at h
  split at h
  · cases h
  · rename_i hfree
    obtain ⟨rfl, rfl⟩ := Prod.mk.inj (Except.ok.inj h)
    exact ⟨hfree, rfl, rfl⟩

theorem Follows.addCard (h : db.Follows records) {c : CardRecord} {id : CardId}
    (hadd : db.addCard c = .ok (db', id)) : db'.Follows (records ++ [c]) := by
  obtain ⟨⟨pushed, id'⟩, hpush, hadd⟩ := Outcome.bind_ok hadd
  obtain ⟨rfl, rfl⟩ := Prod.mk.inj (Except.ok.inj hadd)
  obtain ⟨_, hid, hpushed⟩ := pushCard_ok hpush
  rw [row_eq] at hpushed
  have hlength : db.cards.length = records.length := by rw [h.cards, List.length_mapIdx]
  rw [hlength] at hid hpushed
  have hrelated : ∀ card r, pushed.related card r = db.related card r := by
    rw [hpushed]
    exact fun _ _ => rfl
  have htarget : ∀ t : Tie, t.target? pushed = t.target? db := by
    rw [hpushed]
    exact fun t => by cases t <;> rfl
  rw [linkRecord_eq]
  -- Names are only added, so the records before this one still name what they did.
  have hold : ∀ c' ∈ records, ∀ t ∈ c'.ties,
      t.target? (c.ties.foldl (linkTie id') pushed) = t.target? db := by
    intro c' hc' t ht
    rw [← htarget t]
    exact (remembers_linkTies id' c.ties pushed).target?_eq (htarget t ▸ h.named c' hc' t ht)
  constructor
  case cards =>
    rw [cards_linkTies, hpushed, h.cards, List.mapIdx_concat]
  case named =>
    intro c' hc' t ht
    rcases List.mem_append.mp hc' with hc' | hc'
    · rw [hold c' hc' t ht]
      exact h.named c' hc' t ht
    · obtain rfl := List.mem_singleton.mp hc'
      exact named_linkTies _ _ _ t ht
  case related =>
    intro card r n
    rw [mem_related_linkTies, hrelated, h.related, hid]
    constructor
    · rintro (⟨rfl, t, ht, hr, hn⟩ | ⟨i, c', hc', hcard, t, ht, hr, hn⟩)
      · exact ⟨records.length, c, by simp, rfl, t, ht, hr, hn⟩
      · refine ⟨i, c', getElem?_concat_eq_some_iff.mpr (Or.inl hc'), hcard, t, ht, hr, ?_⟩
        rw [← hid, hold c' (List.mem_of_getElem? hc') t ht, hn]
    · rintro ⟨i, c', hc', rfl, t, ht, hr, hn⟩
      rcases getElem?_concat_eq_some_iff.mp hc' with hc' | ⟨rfl, rfl⟩
      · rw [← hid, hold c' (List.mem_of_getElem? hc') t ht] at hn
        exact Or.inr ⟨i, c', hc', rfl, t, ht, hr, hn⟩
      · exact Or.inl ⟨rfl, t, ht, hr, hn⟩

/-- A card is refused when a record before it has its key. -/
theorem Follows.cardWithKey?_eq_none_iff (h : db.Follows records) {key : String} :
    db.cardWithKey? key = none ↔ key ∉ records.map fun c => canonicalName c.name := by
  have hkeys : db.cards.map (·.canonicalName) = records.map fun c => canonicalName c.name := by
    refine List.ext_getElem? fun i => ?_
    rw [h.cards, List.getElem?_map, List.getElem?_mapIdx, List.getElem?_map, Option.map_map]
    rfl
  rw [Database.cardWithKey?_eq_none_iff, ← hkeys]
  simp

/-- Loading more records goes through when no key is there twice, and is refused at the first record
with the key of an earlier one otherwise. -/
theorem Follows.addCards (h : db.Follows records)
    (hn : (records.map fun c => canonicalName c.name).Nodup) (added : Nat) (cs : List CardRecord) :
    match (db.addCards added cs).2 with
    | .ok _ => (db.addCards added cs).1.Follows (records ++ cs) ∧
        ((records ++ cs).map fun c => canonicalName c.name).Nodup
    | .error failure => Catalog.Repeats (records ++ cs) failure := by
  induction cs generalizing db records added with
  | nil => simpa [Database.addCards] using ⟨h, hn⟩
  | cons c cs ih =>
    rw [Database.addCards]
    cases hkey : db.cardWithKey? (cardOfRecord c).canonicalName with
    | none =>
      have hadd : ∃ db' id, db.addCard c = .ok (db', id) := by
        simp only [Database.addCard, pushCard, hkey]
        exact ⟨_, _, rfl⟩
      obtain ⟨db', id, hadd⟩ := hadd
      rw [hadd, List.append_cons]
      refine ih (h.addCard hadd) (nodup_map_append hn fun c' hc' heq => ?_) (added + 1)
      exact h.cardWithKey?_eq_none_iff.mp hkey (List.mem_map.mpr ⟨c', hc', heq⟩)
    | some id =>
      have hadd : db.addCard c = .error (.duplicateCard (Text.trim c.name)) := by
        simp only [Database.addCard, pushCard, hkey]
        rfl
      rw [hadd]
      have hmem : (cardOfRecord c).canonicalName ∈ records.map fun c => canonicalName c.name := by
        by_contra hfree
        rw [h.cardWithKey?_eq_none_iff.mpr hfree] at hkey
        cases hkey
      obtain ⟨c', hc', heq⟩ := List.mem_map.mp hmem
      obtain ⟨i, hi⟩ := List.mem_iff_getElem?.mp hc'
      obtain ⟨hlt, _⟩ := List.getElem?_eq_some_iff.mp hi
      exact ⟨i, records.length, c', c, hlt, by rw [List.getElem?_append_left hlt, hi], by simp, heq,
        rfl⟩

/-! The lookup tables -/

variable {kind : LookupKind}

theorem calls_append (rs rs' : List LookupRecord) :
    Catalog.calls kind (rs ++ rs') = Catalog.calls kind rs ++ Catalog.calls kind rs' := by
  rw [Catalog.calls, List.filter_append, List.map_append]
  rfl

theorem lookupTable_foldl_addLookupRecord (rs : List LookupRecord) (db : Database) :
    (rs.foldl addLookupRecord db).lookupTable kind =
      (Catalog.calls kind rs).foldl LookupTable.record (db.lookupTable kind) := by
  induction rs generalizing db with
  | nil => rfl
  | cons r rs ih =>
    rw [List.foldl_cons, ih, addLookupRecord, lookupTable_addLookup, Catalog.calls, Catalog.calls,
      List.filter_cons]
    split
    · rename_i heq
      subst heq
      simp [LookupTable.record]
    · rename_i hne
      simp [hne]

theorem lookupTable_linkTies (card : CardId) (ts : List Tie) (db : Database) :
    (ts.foldl (linkTie card) db).lookupTable kind =
      (Catalog.calls kind (ts.flatMap Tie.namings)).foldl LookupTable.record
        (db.lookupTable kind) := by
  induction ts generalizing db with
  | nil => rfl
  | cons t ts ih =>
    have ht : (linkTie card db t).lookupTable kind =
        (t.namings.foldl addLookupRecord db).lookupTable kind := by
      rw [lookupTable, lookupTable, ← (settle_tables db t).2.2]
      rfl
    rw [List.foldl_cons, ih, ht, lookupTable_foldl_addLookupRecord, List.flatMap_cons, calls_append,
      List.foldl_append]

theorem lookupTable_addCards {cs : List CardRecord} {added : Nat}
    (h : (db.addCards added cs).2 = .ok n) :
    (db.addCards added cs).1.lookupTable kind =
      (Catalog.calls kind (cs.flatMap fun c => c.ties.flatMap Tie.namings)).foldl
        LookupTable.record (db.lookupTable kind) := by
  induction cs generalizing db added with
  | nil => rfl
  | cons c cs ih =>
    rw [addCards] at h ⊢
    split at h
    · rename_i db' id hadd
      rw [ih h, List.flatMap_cons, calls_append, List.foldl_append]
      obtain ⟨⟨pushed, id'⟩, hpush, hadd⟩ := Outcome.bind_ok hadd
      obtain ⟨rfl, rfl⟩ := Prod.mk.inj (Except.ok.inj hadd)
      obtain ⟨_, _, rfl⟩ := pushCard_ok hpush
      rw [linkRecord_eq, lookupTable_linkTies]
      rfl
    · cases h

/-- Whatever was looked up while the catalog was loaded has kept its meaning. -/
theorem names_loadCatalog {catalog : Catalog} (h : (empty.loadCatalog catalog).2 = .ok n) :
    (empty.loadCatalog catalog).1.Names catalog := by
  have htables : ∀ kind, (empty.loadCatalog catalog).1.lookupTable kind =
      .ofCalls (Catalog.calls kind catalog.namings) := by
    intro kind
    have hempty : empty.lookupTable kind = .empty := by simp [lookupTable, empty]
    rw [loadCatalog] at h ⊢
    rw [lookupTable_addCards h, lookupTable_foldl_addLookupRecord, ← List.foldl_append,
      ← calls_append, hempty]
    rfl
  refine ⟨htables, fun kind => ?_, fun kind before after heq name id hfind => ?_⟩
  · rw [lookupEntries, htables]
    exact LookupTable.names_nodup_ofCalls _
  · rw [findLookup, htables, heq, LookupTable.ofCalls, List.foldl_append]
    exact LookupTable.findKey_foldl_record hfind after

/-! The whole catalog -/

theorem follows_lookups (rs : List LookupRecord) : (rs.foldl addLookupRecord empty).Follows [] := by
  have hempty : empty.Follows [] := by
    refine ⟨rfl, by simp, fun card r n => ?_⟩
    simp [related, relation, empty, LinkTable.forward, LinkTable.empty]
  refine List.foldlRecOn (motive := (Follows · [])) rs addLookupRecord hempty fun db h r _ => ?_
  exact ⟨h.cards, by simp, fun card r n => (h.related card r n).trans (by simp)⟩

/-- A catalog makes a database unless two of its records have one key; then the later one is refused.
The database has the cards, the links and the names that the catalog gives, and nothing else. -/
theorem ofCatalog_follows (catalog : Catalog) :
    ((∃ failure, ofCatalog catalog = .error failure) ↔
        ¬ (catalog.cards.map fun c => canonicalName c.name).Nodup) ∧
      (∀ failure, ofCatalog catalog = .error failure → Catalog.Repeats catalog.cards failure) ∧
      ∀ db, ofCatalog catalog = .ok db →
        db.Follows catalog.cards ∧ db.Names catalog ∧ SameHoldings empty db := by
  have hload := (follows_lookups catalog.lookups).addCards List.nodup_nil 0 catalog.cards
  have heq : empty.loadCatalog catalog =
      (catalog.lookups.foldl addLookupRecord empty).addCards 0 catalog.cards := rfl
  rw [← heq, List.nil_append] at hload
  cases hresult : (empty.loadCatalog catalog).2 with
  | ok n =>
    rw [hresult] at hload
    rw [ofCatalog_eq hresult]
    refine ⟨?_, ?_, ?_⟩
    · simpa using hload.2
    · intro failure h
      cases h
    · intro db h
      obtain rfl := Except.ok.inj h
      exact ⟨hload.1, names_loadCatalog hresult, sameHoldings_loadCatalog empty catalog⟩
  | error failure =>
    rw [hresult] at hload
    have herror : ofCatalog catalog = .error failure := by
      rw [ofCatalog]
      split
      · rename_i hok
        rw [hok] at hresult
        cases hresult
      · rename_i hfailed
        rw [hfailed] at hresult
        exact congrArg _ (Except.error.inj hresult)
    rw [herror]
    refine ⟨?_, ?_, ?_⟩
    · exact iff_of_true ⟨failure, rfl⟩ hload.not_nodup
    · intro failure' h
      exact Except.error.inj h ▸ hload
    · intro db h
      cases h

/-- The second card names the clan of the first by another name. -/
def packs : Catalog where
  lookups := [⟨.clan, "Ventrue", some "Ven"⟩]
  cards := [{ name := "Dog", clans := ["Ahrimanes", "VENTRUE "] }, { name := " Cat", clans := ["ven"] }]

theorem ofCatalog_follows_packs : ∃ db, ofCatalog packs = .ok db ∧ db.Follows packs.cards ∧
    db.Names packs ∧ db.related ⟨0⟩ .clan = [0, 1] ∧ db.related ⟨1⟩ .clan = [0] := by
  have h : ofCatalog packs = .ok (empty.loadCatalog packs).1 :=
    ofCatalog_eq (n := 2) (by decide +kernel)
  obtain ⟨hfollows, hnames, _⟩ := (ofCatalog_follows packs).2.2 _ h
  exact ⟨_, h, hfollows, hnames, by decide +kernel, by decide +kernel⟩

end Database
end CardBinder
