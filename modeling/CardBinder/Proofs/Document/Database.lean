import CardBinder.Proofs.Catalog.Load
import CardBinder.Proofs.Document.Rows
import CardBinder.Proofs.Outcome

/-! A stored database is read back with every row and counter as it was; only what finds the lookup
entries is made anew. -/

namespace CardBinder

theorem LookupTable.ofJson?_toJson {t : LookupTable} (h : ∀ e ∈ t.entries, e.id.Fits) :
    LookupTable.ofJson? t.toJson = some (.ofEntries t.entries) := by
  simp only [LookupTable.ofJson?, LookupTable.toJson]
  rw [Json.record?_object (by decide) rfl]
  simp [Json.list?_map fun e he => LookupEntry.ofJson?_toJson (h e he)]

theorem LookupTable.of_ofJson? {v : Json} {t : LookupTable} (h : LookupTable.ofJson? v = some t) :
    ∃ es : List LookupEntry, t = .ofEntries es ∧ ∀ e ∈ es, e.id.Fits := by
  obtain ⟨fields, _, h⟩ := Option.bind_eq_some_iff.mp h
  split at h
  · obtain ⟨es, hes, h⟩ := Option.bind_eq_some_iff.mp h
    obtain ⟨w, hw⟩ := Json.of_get? hes
    refine ⟨es, (Option.some.inj h).symm, ?_⟩
    intro e he
    obtain ⟨x, hx⟩ := Json.mem_of_list? hw e he
    exact LookupEntry.fits_of_ofJson? hx
  · cases h

theorem LinkTable.ofJson?_toJson {t : LinkTable} (hs : t.Sorted) (h : ∀ l ∈ t.links, l.Fits) :
    LinkTable.ofJson? t.toJson = some t := by
  simp only [LinkTable.ofJson?, LinkTable.toJson]
  rw [Json.record?_object (by decide) rfl]
  simp [Json.list?_map fun l hl => Link.ofJson?_list (h l hl), hs.ofLinks_links]

theorem LinkTable.of_ofJson? {v : Json} {t : LinkTable} (h : LinkTable.ofJson? v = some t) :
    t.Sorted ∧ ∀ l ∈ t.links, l.Fits := by
  obtain ⟨fields, _, h⟩ := Option.bind_eq_some_iff.mp h
  split at h
  · obtain ⟨ls, hls, h⟩ := Option.bind_eq_some_iff.mp h
    obtain ⟨w, hw⟩ := Json.of_get? hls
    obtain rfl := Option.some.inj h
    refine ⟨LinkTable.sorted_ofLinks ls, ?_⟩
    intro l hl
    obtain ⟨x, hx⟩ := Json.mem_of_list? hw l (LinkTable.mem_ofLinks hl)
    exact Link.fits_of_ofJson? hx
  · cases h

namespace Database
variable {db db' src : Database} {v : Json}

/-- Every number in the tables of the catalog can be written, and links are in order. -/
structure CatalogStorable (db : Database) : Prop where
  entries : ∀ kind, ∀ e ∈ db.lookupEntries kind, e.id.Fits
  found : ∀ kind name id, db.findLookup kind name = some id → id.Fits
  disciplinePairs : ∀ p ∈ db.disciplinePairs, p.Fits
  rarityPairs : ∀ p ∈ db.rarityPairs, p.Fits
  cards : ∀ c ∈ db.cards, c.id.Fits ∧ c.NumbersFit
  links : ∀ r, (db.relation r).Sorted ∧ ∀ l ∈ (db.relation r).links, l.Fits

/-- Every number besides the catalog can be written; the sets that copies are in are left out. -/
structure HoldingsStorable (db : Database) : Prop where
  printings : ∀ p ∈ db.printings, p.Fits
  cardSets : ∀ cs ∈ db.cardSets, cs.Fits
  copies : ∀ c ∈ db.copies, c.id.Fits ∧ c.printing.Fits
  nextCardSetId : db.nextCardSetId < idBound
  nextCopyId : db.nextCopyId < idBound
  generation : db.generation < 18446744073709551616

/-- Every number in the tables can be written. -/
structure Storable (db : Database) : Prop extends db.CatalogStorable, db.HoldingsStorable where
  copySets : ∀ c ∈ db.copies, c.cardSet.Fits

/-- The same rows, with the names of lookup entries indexed anew. -/
def reindexed (db : Database) : Database :=
  { db with lookups := db.lookups.map fun t => .ofEntries t.entries }

theorem lookupTable_reindexed (db : Database) (kind : LookupKind) :
    db.reindexed.lookupTable kind = .ofEntries (db.lookupTable kind).entries := by
  simp [lookupTable, reindexed]

theorem ofKey?_lookupKey (kind : LookupKind) : LookupKind.ofKey? kind.key = some kind := by
  cases kind <;> decide

theorem ofKey?_relationKey (r : Relation) : Relation.ofKey? r.key = some r := by
  cases r <;> decide

theorem lookups_ext (h : ∀ kind, db'.lookupTable kind = db.lookupTable kind) :
    db'.lookups = db.lookups := by
  have hall : ∀ i : Fin 12, ∃ kind ∈ LookupKind.all, kind.index = i := by decide
  apply Vector.ext
  intro i hi
  obtain ⟨kind, _, hk⟩ := hall ⟨i, hi⟩
  have := h kind
  simp only [lookupTable, hk] at this
  exact this

theorem relations_ext (h : ∀ r, db'.relation r = db.relation r) :
    db'.relations = db.relations := by
  have hall : ∀ i : Fin 11, ∃ r ∈ Relation.all, r.index = i := by decide
  apply Vector.ext
  intro i hi
  obtain ⟨r, _, hr⟩ := hall ⟨i, hi⟩
  have := h r
  simp only [relation, hr] at this
  exact this

/-! Writing and reading the tables that are stored by key -/

theorem foldl_setLookupTable (f : LookupKind → LookupTable) (kinds : List LookupKind)
    (db : Database) :
    kinds.foldl (fun db k => db.setLookupTable k (f k)) db =
        { db with lookups := (kinds.foldl (fun db k => db.setLookupTable k (f k)) db).lookups } ∧
      ∀ kind, (kinds.foldl (fun db k => db.setLookupTable k (f k)) db).lookupTable kind =
        if kind ∈ kinds then f kind else db.lookupTable kind := by
  induction kinds generalizing db with
  | nil => simp
  | cons k kinds ih =>
    obtain ⟨hrest, htable⟩ := ih (db.setLookupTable k (f k))
    refine ⟨hrest, ?_⟩
    intro kind
    rw [List.foldl_cons, htable, lookupTable_set]
    by_cases hk : k = kind
    · subst hk
      simp
    · simp [hk, Ne.symm hk]

theorem foldl_setRelation (f : Relation → LinkTable) (rs : List Relation) (db : Database) :
    rs.foldl (fun db r => db.setRelation r (f r)) db =
        { db with relations := (rs.foldl (fun db r => db.setRelation r (f r)) db).relations } ∧
      ∀ r, (rs.foldl (fun db r => db.setRelation r (f r)) db).relation r =
        if r ∈ rs then f r else db.relation r := by
  induction rs generalizing db with
  | nil => simp
  | cons x rs ih =>
    obtain ⟨hrest, htable⟩ := ih (db.setRelation x (f x))
    refine ⟨hrest, ?_⟩
    intro r
    rw [List.foldl_cons, htable, relation_set]
    by_cases hx : x = r
    · subst hx
      simp
    · simp [hx, Ne.symm hx]

theorem lookupsOfJson?_map (db : Database)
    (h : ∀ kind, ∀ e ∈ src.lookupEntries kind, e.id.Fits) :
    lookupsOfJson? db
        (.object (LookupKind.all.map fun k => (k.key, (src.lookupTable k).toJson))) =
      some { db with lookups := src.reindexed.lookups } := by
  have hread : ∀ (kinds : List LookupKind) (db : Database),
      (kinds.map fun k => (k.key, (src.lookupTable k).toJson)).foldlM (fun db x => do
        return db.setLookupTable (← LookupKind.ofKey? x.1) (← LookupTable.ofJson? x.2)) db =
      some (kinds.foldl (fun db k => db.setLookupTable k (src.reindexed.lookupTable k)) db) := by
    intro kinds
    induction kinds with
    | nil => exact fun db => rfl
    | cons k kinds ih =>
      intro db
      have hk := LookupTable.ofJson?_toJson (h k)
      rw [List.map_cons, List.foldlM_cons, List.foldl_cons, ← ih]
      simp [ofKey?_lookupKey, hk, lookupTable_reindexed]
  obtain ⟨hrest, htable⟩ := foldl_setLookupTable src.reindexed.lookupTable LookupKind.all db
  refine (hread LookupKind.all db).trans (congrArg some (hrest.trans ?_))
  rw [lookups_ext fun kind => (htable kind).trans (if_pos (by cases kind <;> decide))]

theorem relationsOfJson?_map (db : Database)
    (h : ∀ r, (src.relation r).Sorted ∧ ∀ l ∈ (src.relation r).links, l.Fits) :
    relationsOfJson? db
        (.object (Relation.all.map fun r => (r.key, (src.relation r).toJson))) =
      some { db with relations := src.relations } := by
  have hread : ∀ (rs : List Relation) (db : Database),
      (rs.map fun r => (r.key, (src.relation r).toJson)).foldlM (fun db x => do
        return db.setRelation (← Relation.ofKey? x.1) (← LinkTable.ofJson? x.2)) db =
      some (rs.foldl (fun db r => db.setRelation r (src.relation r)) db) := by
    intro rs
    induction rs with
    | nil => exact fun db => rfl
    | cons r rs ih =>
      intro db
      have hr := LinkTable.ofJson?_toJson (h r).1 (h r).2
      rw [List.map_cons, List.foldlM_cons, List.foldl_cons, ← ih]
      simp [ofKey?_relationKey, hr]
  obtain ⟨hrest, htable⟩ := foldl_setRelation src.relation Relation.all db
  refine (hread Relation.all db).trans (congrArg some (hrest.trans ?_))
  rw [relations_ext fun r => (htable r).trans (if_pos (by cases r <;> decide))]

/-- Reading back what was written. -/
theorem ofJson?_toJson (h : db.Storable) : ofJson? db.toJson = some db.reindexed := by
  have hcopies : ∀ c ∈ db.copies, c.Fits := fun c hc =>
    ⟨(h.copies c hc).1, h.copySets c hc, (h.copies c hc).2⟩
  have hset : db.nextCardSetId ≤ idBound - 1 := Nat.le_sub_one_of_lt h.nextCardSetId
  have hcopy : db.nextCopyId ≤ idBound - 1 := Nat.le_sub_one_of_lt h.nextCopyId
  have hgeneration : db.generation ≤ 18446744073709551615 := Nat.le_sub_one_of_lt h.generation
  simp only [ofJson?, toJson]
  rw [Json.record?_object (by decide) rfl]
  simp [Json.list?_map fun p hp => DisciplinePair.ofJson?_toJson (h.disciplinePairs p hp),
    Json.list?_map fun p hp => RarityPair.ofJson?_toJson (h.rarityPairs p hp),
    Json.list?_map fun c hc => Card.ofJson?_toJson (h.cards c hc).1 (h.cards c hc).2,
    Json.list?_map fun p hp => Printing.ofJson?_toJson (h.printings p hp),
    Json.list?_map fun cs hcs => CardSet.ofJson?_toJson (h.cardSets cs hcs),
    Json.list?_map fun c hc => Copy.ofJson?_toJson (hcopies c hc),
    Json.natUpTo?_nat hset, Json.natUpTo?_nat hcopy, Json.natUpTo?_nat hgeneration,
    lookupsOfJson?_map _ h.entries, relationsOfJson?_map _ h.links, reindexed]

/-! What is read -/

theorem foldlM_some {α β : Type} {P : β → Prop} {f : β → α → Option β}
    (hf : ∀ b a b', P b → f b a = some b' → P b') {as : List α} {b b' : β} (hb : P b)
    (h : as.foldlM f b = some b') : P b' := by
  induction as generalizing b with
  | nil => exact Option.some.inj h ▸ hb
  | cons a as ih =>
    rw [List.foldlM_cons] at h
    obtain ⟨c, hc, h⟩ := Option.bind_eq_some_iff.mp h
    exact ih (hf b a c hb hc) h

/-- Tables as they are read: indexed anew, and with numbers that can be written. -/
def Reread (db : Database) : Prop :=
  ∀ kind, ∃ es : List LookupEntry, db.lookupTable kind = .ofEntries es ∧ ∀ e ∈ es, e.id.Fits

theorem reread_of_lookupsOfJson? (hr : db.Reread) (h : lookupsOfJson? db v = some db') :
    db'.Reread ∧ db' = { db with lookups := db'.lookups } := by
  unfold lookupsOfJson? at h
  split at h
  · refine foldlM_some (P := fun x => x.Reread ∧ x = { db with lookups := x.lookups }) ?_
      ⟨hr, rfl⟩ h
    rintro x ⟨key, w⟩ y ⟨hx, hrest⟩ hy
    obtain ⟨kind, _, hy⟩ := Option.bind_eq_some_iff.mp hy
    obtain ⟨t, ht, hy⟩ := Option.bind_eq_some_iff.mp hy
    obtain rfl := Option.some.inj hy
    constructor
    · intro kind'
      rw [lookupTable_set]
      split
      · exact LookupTable.of_ofJson? ht
      · exact hx kind'
    · rw [hrest]
      rfl
  · cases h

theorem links_of_relationsOfJson?
    (hr : ∀ r, (db.relation r).Sorted ∧ ∀ l ∈ (db.relation r).links, l.Fits)
    (h : relationsOfJson? db v = some db') :
    (∀ r, (db'.relation r).Sorted ∧ ∀ l ∈ (db'.relation r).links, l.Fits) ∧
      db' = { db with relations := db'.relations } := by
  unfold relationsOfJson? at h
  split at h
  · refine foldlM_some (P := fun x => (∀ r, (x.relation r).Sorted ∧
      ∀ l ∈ (x.relation r).links, l.Fits) ∧ x = { db with relations := x.relations }) ?_ ⟨hr, rfl⟩ h
    rintro x ⟨key, w⟩ y ⟨hx, hrest⟩ hy
    obtain ⟨r, _, hy⟩ := Option.bind_eq_some_iff.mp hy
    obtain ⟨t, ht, hy⟩ := Option.bind_eq_some_iff.mp hy
    obtain rfl := Option.some.inj hy
    constructor
    · intro r'
      rw [relation_set]
      split
      · exact LinkTable.of_ofJson? ht
      · exact hx r'
    · rw [hrest]
      rfl
  · cases h

theorem Reread.reindexed (h : db.Reread) : db.reindexed = db := by
  have hl : db.reindexed.lookups = db.lookups := by
    refine lookups_ext fun kind => ?_
    obtain ⟨es, hes, _⟩ := h kind
    rw [lookupTable_reindexed, hes]
    rfl
  exact congrArg (fun lookups => { db with lookups }) hl

theorem reread_empty : empty.Reread := by
  intro kind
  refine ⟨[], ?_, by simp⟩
  simp [lookupTable, empty, LookupTable.empty, LookupTable.ofEntries]

theorem storable_empty : empty.Storable where
  entries kind := by simp [lookupEntries, lookupTable, empty, LookupTable.empty]
  found kind name id h := by
    simp [findLookup, lookupTable, empty, LookupTable.empty, LookupTable.find,
      LookupTable.findKey] at h
  disciplinePairs := by simp [empty]
  rarityPairs := by simp [empty]
  cards := by simp [empty]
  links r := by simp [relation, empty, LinkTable.empty, LinkTable.Sorted]
  printings := by simp [empty]
  cardSets := by simp [empty]
  copies := by simp [empty]
  nextCardSetId := by decide
  nextCopyId := by decide
  generation := by decide
  copySets := by simp [empty]

theorem forall_of_get? {α : Type} {f : Json → Option α} {P : α → Prop}
    (hf : ∀ v x, f v = some x → P x) {field : Option Json} {xs : List α}
    (h : Json.get? (Json.list? f) field = some xs) : ∀ x ∈ xs, P x := by
  obtain ⟨v, hv⟩ := Json.of_get? h
  intro x hx
  obtain ⟨w, hw⟩ := Json.mem_of_list? hv x hx
  exact hf w x hw

theorem lt_of_get? {limit n : Nat} {field : Option Json}
    (h : Json.get? (Json.natUpTo? limit) field = some n) : n < limit + 1 := by
  obtain ⟨v, hv⟩ := Json.of_get? h
  exact Nat.lt_succ_of_le (Json.le_of_natUpTo? hv)

/-- Whatever document can be read, what is read can be written, and read again as it is. -/
theorem of_ofJson? (h : ofJson? v = some db) : db.Storable ∧ db.reindexed = db := by
  rw [ofJson?] at h
  obtain ⟨fields, _, h⟩ := Option.bind_eq_some_iff.mp h
  split at h
  · obtain ⟨disciplinePairs, hdisciplines, h⟩ := Option.bind_eq_some_iff.mp h
    obtain ⟨rarityPairs, hrarities, h⟩ := Option.bind_eq_some_iff.mp h
    obtain ⟨cards, hcards, h⟩ := Option.bind_eq_some_iff.mp h
    obtain ⟨printings, hprintings, h⟩ := Option.bind_eq_some_iff.mp h
    obtain ⟨cardSets, hsets, h⟩ := Option.bind_eq_some_iff.mp h
    obtain ⟨copies, hcopies, h⟩ := Option.bind_eq_some_iff.mp h
    obtain ⟨nextSet, hnextSet, h⟩ := Option.bind_eq_some_iff.mp h
    obtain ⟨nextCopy, hnextCopy, h⟩ := Option.bind_eq_some_iff.mp h
    obtain ⟨generation, hgeneration, h⟩ := Option.bind_eq_some_iff.mp h
    obtain ⟨db₁, hlookups, h⟩ := Option.bind_eq_some_iff.mp h
    obtain ⟨lookupsDoc, hlookups⟩ := Json.of_get? hlookups
    obtain ⟨relationsDoc, hrelations⟩ := Json.of_get? h
    have hreread := fun hr => reread_of_lookupsOfJson? hr hlookups
    obtain ⟨hreread, hrest⟩ := hreread reread_empty
    have hlinks := fun hr => links_of_relationsOfJson? hr hrelations
    obtain ⟨hlinks, hrest'⟩ := hlinks (hrest ▸ storable_empty.links)
    have hcopyFits := forall_of_get? (fun _ _ => Copy.fits_of_ofJson?) hcopies
    have hreread' : db.Reread := by
      rw [hrest']
      exact hreread
    refine ⟨⟨⟨?_, ?_, ?_, ?_, ?_, hlinks⟩, ⟨?_, ?_, ?_, ?_, ?_, ?_⟩, ?_⟩, hreread'.reindexed⟩
    · intro kind e he
      obtain ⟨es, hes, hfits⟩ := hreread' kind
      rw [lookupEntries, hes] at he
      exact hfits e he
    · intro kind name id hid
      obtain ⟨es, hes, hfits⟩ := hreread' kind
      rw [findLookup, hes] at hid
      obtain ⟨e, he, rfl⟩ := LookupTable.find_ofEntries_mem hid
      exact hfits e he
    all_goals rw [hrest', hrest]
    · exact forall_of_get? (fun _ _ => DisciplinePair.fits_of_ofJson?) hdisciplines
    · exact forall_of_get? (fun _ _ => RarityPair.fits_of_ofJson?) hrarities
    · exact forall_of_get? (fun _ _ => Card.fits_of_ofJson?) hcards
    · exact forall_of_get? (fun _ _ => Printing.fits_of_ofJson?) hprintings
    · exact forall_of_get? (fun _ _ => CardSet.fits_of_ofJson?) hsets
    · exact fun c hc => ⟨(hcopyFits c hc).id, (hcopyFits c hc).printing⟩
    · exact lt_of_get? hnextSet
    · exact lt_of_get? hnextCopy
    · exact lt_of_get? hgeneration
    · exact fun c hc => (hcopyFits c hc).cardSet
  · cases h

end Database
end CardBinder
