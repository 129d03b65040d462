import CardBinder.Proofs.Catalog.Valid
import CardBinder.Proofs.Outcome

/-! Every step of filling a database from a catalog keeps the catalog side sound, whatever the catalog says. -/

namespace CardBinder.Database
variable {db : Database} {kind : LookupKind} {r : Relation} {card : CardId} {n : Nat}

theorem index_injective : Function.Injective LookupKind.index := by
  intro a b h
  cases a <;> cases b <;> first | rfl | cases h

theorem relationIndex_injective : Function.Injective Relation.index := by
  intro a b h
  cases a <;> cases b <;> first | rfl | cases h

theorem lookupTable_set (db : Database) (kind kind' : LookupKind) (t : LookupTable) :
    (db.setLookupTable kind t).lookupTable kind' =
      if kind = kind' then t else db.lookupTable kind' := by
  simp only [lookupTable, setLookupTable, Fin.getElem_fin, Vector.getElem_set,
    ← Fin.ext_iff, index_injective.eq_iff]

theorem relation_set (db : Database) (r r' : Relation) (t : LinkTable) :
    (db.setRelation r t).relation r' = if r = r' then t else db.relation r' := by
  simp only [relation, setRelation, Fin.getElem_fin, Vector.getElem_set,
    ← Fin.ext_iff, relationIndex_injective.eq_iff]

theorem catalogValid_empty : empty.CatalogValid where
  lookups kind := by
    have h : empty.lookupTable kind = .empty := by simp [lookupTable, empty]
    rw [h]
    exact LookupTable.indexed_empty
  disciplinePairs := numbered_nil
  disciplinesOnce := List.nodup_nil
  disciplinesKnown := by simp [empty]
  rarityPairs := numbered_nil
  raritiesOnce := List.nodup_nil
  raritiesKnown := by simp [empty]
  cards := numbered_nil
  cardsOnce := List.nodup_nil
  linksSorted r := by
    have h : empty.relation r = .empty := by simp [relation, empty]
    rw [h]
    exact LinkTable.sorted_empty
  linksKnown r := by
    have h : (empty.relation r).links = [] := by simp [relation, empty, LinkTable.empty]
    simp [h]

/-- Growing keeps everything known that was known, in the rows that stay. -/
theorem Grows.of_tables {db db' : Database}
    (hl : ∀ kind n, Leads (·.id.val) (db.lookupTable kind).entries n →
      Leads (·.id.val) (db'.lookupTable kind).entries n)
    (hd : ∃ more, db'.disciplinePairs = db.disciplinePairs ++ more)
    (hr : ∃ more, db'.rarityPairs = db.rarityPairs ++ more)
    (hc : ∃ more, db'.cards = db.cards ++ more) : Grows db db' where
  entries kind id := hl kind id.val
  disciplinePairs n h := by
    obtain ⟨more, hd⟩ := hd
    exact hd ▸ h.append more
  rarityPairs n h := by
    obtain ⟨more, hr⟩ := hr
    exact hr ▸ h.append more
  cards id h := by
    obtain ⟨more, hc⟩ := hc
    rw [HasCard]
    exact hc ▸ Leads.append h more

/-! Lookup entries -/

theorem lookupTable_addLookup (db : Database) (kind kind' : LookupKind) (name : String)
    (other : Option String) :
    (db.addLookup kind name other).1.lookupTable kind' =
      if kind = kind' then ((db.lookupTable kind).getOrCreate name other).1
      else db.lookupTable kind' := by
  rw [addLookup]
  exact lookupTable_set db kind kind' _

theorem grows_addLookup (db : Database) (kind : LookupKind) (name : String)
    (other : Option String) : Grows db (db.addLookup kind name other).1 := by
  refine .of_tables ?_ ⟨[], (List.append_nil _).symm⟩ ⟨[], (List.append_nil _).symm⟩
    ⟨[], (List.append_nil _).symm⟩
  intro kind' n h
  rw [lookupTable_addLookup]
  split
  · rename_i heq
    exact LookupTable.leads_getOrCreate (heq ▸ h)
  · exact h

theorem CatalogValid.addLookup (hv : db.CatalogValid) (kind : LookupKind) (name : String)
    (other : Option String) : (db.addLookup kind name other).1.CatalogValid := by
  have hg := grows_addLookup db kind name other
  refine { hv with lookups := ?_, disciplinesKnown := ?_, raritiesKnown := ?_, linksKnown := ?_ }
  · intro kind'
    rw [lookupTable_addLookup]
    split
    · exact (hv.lookups kind).getOrCreate
    · exact hv.lookups kind'
  · intro p hp
    exact hg.entries _ _ (hv.disciplinesKnown p hp)
  · intro p hp
    exact (hv.raritiesKnown p hp).imp (hg.entries _ _) (hg.entries _ _)
  · intro r l hl
    exact (hv.linksKnown r l hl).imp (hg.cards _) hg.target

theorem CatalogValid.hasEntry_addLookup (hv : db.CatalogValid) (kind : LookupKind)
    (name : String) (other : Option String) :
    (db.addLookup kind name other).1.HasEntry kind (db.addLookup kind name other).2 := by
  rw [HasEntry, lookupEntries, lookupTable_addLookup, if_pos rfl]
  exact (hv.lookups kind).getOrCreate_leads

/-! Pairs -/

theorem grows_addDisciplinePair (db : Database) (discipline : LookupId) (level : DisciplineLevel) :
    Grows db (db.addDisciplinePair discipline level).1 := by
  rw [addDisciplinePair]
  split
  · exact (SameCatalog.refl db).grows
  · exact .of_tables (fun _ _ h => h) ⟨_, rfl⟩ ⟨[], (List.append_nil _).symm⟩
      ⟨[], (List.append_nil _).symm⟩

theorem CatalogValid.addDisciplinePair (hv : db.CatalogValid) {discipline : LookupId}
    (hd : db.HasEntry .discipline discipline) (level : DisciplineLevel) :
    (db.addDisciplinePair discipline level).1.CatalogValid ∧
      Leads (·.id.val) (db.addDisciplinePair discipline level).1.disciplinePairs
        (db.addDisciplinePair discipline level).2.val := by
  have hg := grows_addDisciplinePair db discipline level
  unfold Database.addDisciplinePair at hg ⊢
  cases hf : db.findDisciplinePair discipline level with
  | some id =>
    simp only
    obtain ⟨p, hp, rfl⟩ := Option.map_eq_some_iff.mp hf
    exact ⟨hv, hv.disciplinePairs.leads (List.mem_of_find?_eq_some hp)⟩
  | none =>
    simp only [hf] at hg ⊢
    have hnum := hv.disciplinePairs.append
      (show (⟨.ofPlace db.disciplinePairs.length, discipline, level⟩ : DisciplinePair).id.val = _
        from rfl)
    refine ⟨{ hv with
      disciplinePairs := hnum
      disciplinesOnce := ?_
      disciplinesKnown := ?_
      linksKnown := ?_ }, hnum.leads_place (by simp)⟩
    · refine nodup_map_append hv.disciplinesOnce fun p hp heq => ?_
      have hnone := List.find?_eq_none.mp (Option.map_eq_none_iff.mp hf) p hp
      simp_all
    · intro p hp
      rcases List.mem_append.mp hp with hp | hp
      · exact hv.disciplinesKnown p hp
      · rw [List.mem_singleton.mp hp]
        exact hd
    · intro r l hl
      exact (hv.linksKnown r l hl).imp (hg.cards _) hg.target

theorem grows_addRarityPair (db : Database) (expansion rarity : LookupId) :
    Grows db (db.addRarityPair expansion rarity).1 := by
  rw [addRarityPair]
  split
  · exact (SameCatalog.refl db).grows
  · exact .of_tables (fun _ _ h => h) ⟨[], (List.append_nil _).symm⟩ ⟨_, rfl⟩
      ⟨[], (List.append_nil _).symm⟩

theorem CatalogValid.addRarityPair (hv : db.CatalogValid) {expansion rarity : LookupId}
    (he : db.HasEntry .expansion expansion) (hr : db.HasEntry .rarity rarity) :
    (db.addRarityPair expansion rarity).1.CatalogValid ∧
      Leads (·.id.val) (db.addRarityPair expansion rarity).1.rarityPairs
        (db.addRarityPair expansion rarity).2.val := by
  have hg := grows_addRarityPair db expansion rarity
  unfold Database.addRarityPair at hg ⊢
  cases hf : db.findRarityPair expansion rarity with
  | some id =>
    simp only
    obtain ⟨p, hp, rfl⟩ := Option.map_eq_some_iff.mp hf
    exact ⟨hv, hv.rarityPairs.leads (List.mem_of_find?_eq_some hp)⟩
  | none =>
    simp only [hf] at hg ⊢
    have hnum := hv.rarityPairs.append
      (show (⟨.ofPlace db.rarityPairs.length, expansion, rarity⟩ : RarityPair).id.val = _ from rfl)
    refine ⟨{ hv with
      rarityPairs := hnum
      raritiesOnce := ?_
      raritiesKnown := ?_
      linksKnown := ?_ }, hnum.leads_place (by simp)⟩
    · refine nodup_map_append hv.raritiesOnce fun p hp heq => ?_
      have hnone := List.find?_eq_none.mp (Option.map_eq_none_iff.mp hf) p hp
      simp_all
    · intro p hp
      rcases List.mem_append.mp hp with hp | hp
      · exact hv.raritiesKnown p hp
      · rw [List.mem_singleton.mp hp]
        exact ⟨he, hr⟩
    · intro r l hl
      exact (hv.linksKnown r l hl).imp (hg.cards _) hg.target

/-! Links -/

theorem grows_link (db : Database) (card : CardId) (r : Relation) (n : Nat) :
    Grows db (db.link card r n) where
  entries _ _ h := h
  disciplinePairs _ h := h
  rarityPairs _ h := h
  cards _ h := h

theorem CatalogValid.link (hv : db.CatalogValid) (hc : db.HasCard card) (ht : db.HasTarget r n) :
    (db.link card r n).CatalogValid := by
  have hg := grows_link db card r n
  refine { hv with linksSorted := ?_, linksKnown := ?_ }
  · intro r'
    rw [Database.link, relation_set]
    split
    · exact (hv.linksSorted r).insert card n
    · exact hv.linksSorted r'
  intro r' l hl
  rw [Database.link, relation_set] at hl
  split at hl
  · rename_i heq
    subst heq
    rcases LinkTable.mem_insertInto.mp hl with rfl | hl
    · exact ⟨hg.cards _ hc, hg.target ht⟩
    · exact (hv.linksKnown _ l hl).imp (hg.cards _) hg.target
  · exact (hv.linksKnown _ l hl).imp (hg.cards _) hg.target

/-! Cards -/

theorem grows_pushCard {c : Card} {db' : Database} {id : CardId}
    (h : db.pushCard c = .ok (db', id)) : Grows db db' := by
  rw [pushCard] at h
  split at h
  · cases h
  · obtain ⟨rfl, _⟩ := Prod.mk.inj (Except.ok.inj h)
    exact .of_tables (fun _ _ h => h) ⟨[], (List.append_nil _).symm⟩ ⟨[], (List.append_nil _).symm⟩
      ⟨_, rfl⟩

theorem CatalogValid.pushCard (hv : db.CatalogValid) {c : Card} {db' : Database} {id : CardId}
    (h : db.pushCard c = .ok (db', id)) : db'.CatalogValid ∧ db'.HasCard id := by
  have hg := grows_pushCard h
  rw [Database.pushCard] at h
  split at h
  · cases h
  · rename_i hf
    obtain ⟨rfl, rfl⟩ := Prod.mk.inj (Except.ok.inj h)
    have hnum := hv.cards.append
      (show ({ c with id := .ofPlace db.cards.length } : Card).id.val = _ from rfl)
    refine ⟨{ hv with cards := hnum, cardsOnce := ?_, linksKnown := ?_ },
      hnum.leads_place (by simp)⟩
    · refine nodup_map_append hv.cardsOnce fun x hx heq => ?_
      have hnone := List.find?_eq_none.mp (Option.map_eq_none_iff.mp hf) x (List.mem_reverse.mpr hx)
      simp_all
    · intro r l hl
      exact (hv.linksKnown r l hl).imp (hg.cards _) hg.target

/-- A step that links a card keeps the catalog sound and the card known. -/
theorem CatalogValid.linkName (hv : db.CatalogValid) (hc : db.HasCard card)
    (hr : r.lookupKind? = some kind) (name : String) :
    (linkName card r kind db name).CatalogValid ∧ (linkName card r kind db name).HasCard card := by
  have hg := grows_addLookup db kind name none
  have hlink := (hv.addLookup kind name none).link (r := r) (hg.cards _ hc)
    (show Database.HasTarget _ _ _ by
      rw [HasTarget, hr]
      exact hv.hasEntry_addLookup kind name none)
  exact ⟨hlink, hg.cards _ hc⟩

theorem CatalogValid.linkDiscipline (hv : db.CatalogValid) (hc : db.HasCard card)
    (d : DisciplineRecord) :
    (linkDiscipline card db d).CatalogValid ∧ (linkDiscipline card db d).HasCard card := by
  have hg := grows_addLookup db .discipline d.name none
  have hpair := (hv.addLookup .discipline d.name none).addDisciplinePair
    (hv.hasEntry_addLookup .discipline d.name none) d.level
  have hg' := grows_addDisciplinePair (db.addLookup .discipline d.name none).1
    (db.addLookup .discipline d.name none).2 d.level
  have hc' := hg'.cards _ (hg.cards _ hc)
  exact ⟨hpair.1.link hc' (Or.inl ⟨rfl, hpair.2⟩), hc'⟩

theorem CatalogValid.linkRarity (hv : db.CatalogValid) (hc : db.HasCard card)
    (x : RarityRecord) :
    (linkRarity card db x).CatalogValid ∧ (linkRarity card db x).HasCard card := by
  have hg₁ := grows_addLookup db .expansion x.expansion none
  have hv₁ := hv.addLookup .expansion x.expansion none
  have he := hv.hasEntry_addLookup .expansion x.expansion none
  have hg₂ := grows_addLookup (db.addLookup .expansion x.expansion none).1 .rarity x.rarity none
  have hpair := (hv₁.addLookup .rarity x.rarity none).addRarityPair (hg₂.entries _ _ he)
    (hv₁.hasEntry_addLookup .rarity x.rarity none)
  have hg₃ := grows_addRarityPair
    ((db.addLookup .expansion x.expansion none).1.addLookup .rarity x.rarity none).1
    (db.addLookup .expansion x.expansion none).2
    ((db.addLookup .expansion x.expansion none).1.addLookup .rarity x.rarity none).2
  have hc' := hg₃.cards _ (hg₂.cards _ (hg₁.cards _ hc))
  exact ⟨hpair.1.link hc' (Or.inr ⟨rfl, hpair.2⟩), hc'⟩

theorem lookupKind_of_mem_names {c : CardRecord} {names : List String}
    (h : (r, kind, names) ∈ c.names) : r.lookupKind? = some kind := by
  simp only [CardRecord.names, List.mem_cons, List.not_mem_nil, or_false, Prod.mk.injEq] at h
  rcases h with h | h | h | h | h | h | h | h | h <;> obtain ⟨rfl, rfl, _⟩ := h <;> rfl

/-- Steps that link a card, one after the other. -/
theorem CatalogValid.foldl {β : Type} {f : Database → β → Database} (bs : List β)
    (hv : db.CatalogValid) (hc : db.HasCard card)
    (hf : ∀ db, db.CatalogValid → db.HasCard card → ∀ b ∈ bs,
      (f db b).CatalogValid ∧ (f db b).HasCard card) :
    (bs.foldl f db).CatalogValid ∧ (bs.foldl f db).HasCard card :=
  List.foldlRecOn (motive := fun db => db.CatalogValid ∧ db.HasCard card) bs f ⟨hv, hc⟩
    fun db h b hb => hf db h.1 h.2 b hb

theorem CatalogValid.linkRecord (hv : db.CatalogValid) (hc : db.HasCard card) (c : CardRecord) :
    (db.linkRecord card c).CatalogValid := by
  rw [Database.linkRecord]
  obtain ⟨hv, hc⟩ := hv.foldl c.names hc
    (f := fun db x => x.2.2.foldl (Database.linkName card x.1 x.2.1) db) (by
      rintro db hv hc ⟨r, kind, names⟩ hmem
      exact hv.foldl names hc fun db hv hc name _ => hv.linkName hc (lookupKind_of_mem_names hmem) name)
  obtain ⟨hv, hc⟩ := hv.foldl c.disciplines hc fun db hv hc d _ => hv.linkDiscipline hc d
  exact (hv.foldl c.rarities hc fun db hv hc x _ => hv.linkRarity hc x).1

theorem CatalogValid.addCard (hv : db.CatalogValid) {c : CardRecord} {db' : Database} {id : CardId}
    (h : db.addCard c = .ok (db', id)) : db'.CatalogValid := by
  rw [Database.addCard] at h
  cases hp : db.pushCard (cardOfRecord c) with
  | error failure =>
    rw [hp] at h
    cases h
  | ok pushed =>
    rw [hp] at h
    obtain ⟨rfl, rfl⟩ := Prod.mk.inj (Except.ok.inj h)
    obtain ⟨hv', hc⟩ := hv.pushCard hp
    exact hv'.linkRecord hc c

theorem CatalogValid.addCards (hv : db.CatalogValid) (added : Nat) (cs : List CardRecord) :
    (db.addCards added cs).1.CatalogValid := by
  induction cs generalizing db added with
  | nil => exact hv
  | cons c cs ih =>
    rw [Database.addCards]
    split
    · rename_i hc
      exact ih (hv.addCard hc) _
    · exact hv

/-- All cards are counted when none is refused. -/
theorem addCards_ok {added : Nat} {cs : List CardRecord} (h : (db.addCards added cs).2 = .ok n) :
    n = added + cs.length := by
  induction cs generalizing db added with
  | nil => exact (Except.ok.inj h).symm
  | cons c cs ih =>
    rw [Database.addCards] at h
    split at h
    · rw [ih h, List.length_cons]
      omega
    · cases h

/-- A new database is made of a catalog when no card is refused. -/
theorem ofCatalog_eq {catalog : Catalog} (h : (empty.loadCatalog catalog).2 = .ok n) :
    ofCatalog catalog = .ok (empty.loadCatalog catalog).1 := by
  rw [ofCatalog]
  cases hload : empty.loadCatalog catalog with
  | mk loaded cards =>
    rw [hload] at h
    change cards = .ok n at h
    rw [h]

/-- What was loaded before a card is refused is sound too. -/
theorem CatalogValid.loadCatalog (hv : db.CatalogValid) (catalog : Catalog) :
    (db.loadCatalog catalog).1.CatalogValid := by
  rw [Database.loadCatalog]
  refine CatalogValid.addCards ?_ 0 _
  exact List.foldlRecOn (motive := CatalogValid) catalog.lookups addLookupRecord hv
    fun db h r _ => h.addLookup r.kind r.name r.otherName

/-! Loading adds and takes nothing away -/

theorem Grows.trans {db' db'' : Database} (h : Grows db db') (h' : Grows db' db'') :
    Grows db db'' where
  entries kind id := h'.entries kind id ∘ h.entries kind id
  disciplinePairs n := h'.disciplinePairs n ∘ h.disciplinePairs n
  rarityPairs n := h'.rarityPairs n ∘ h.rarityPairs n
  cards id := h'.cards id ∘ h.cards id

theorem grows_foldl {β : Type} {f : Database → β → Database} (hf : ∀ db b, Grows db (f db b))
    (bs : List β) (db : Database) : Grows db (bs.foldl f db) :=
  List.foldlRecOn (motive := Grows db) bs f (SameCatalog.refl db).grows
    fun db' h b _ => h.trans (hf db' b)

theorem grows_linkName (card : CardId) (r : Relation) (kind : LookupKind) (db : Database)
    (name : String) : Grows db (linkName card r kind db name) :=
  (grows_addLookup db kind name none).trans (grows_link _ card r _)

theorem grows_linkDiscipline (card : CardId) (db : Database) (d : DisciplineRecord) :
    Grows db (linkDiscipline card db d) :=
  ((grows_addLookup db .discipline d.name none).trans
    (grows_addDisciplinePair _ _ d.level)).trans (grows_link _ card .discipline _)

theorem grows_linkRarity (card : CardId) (db : Database) (x : RarityRecord) :
    Grows db (linkRarity card db x) :=
  (((grows_addLookup db .expansion x.expansion none).trans
    (grows_addLookup _ .rarity x.rarity none)).trans
    (grows_addRarityPair _ _ _)).trans (grows_link _ card .rarity _)

theorem grows_linkRecord (db : Database) (card : CardId) (c : CardRecord) :
    Grows db (db.linkRecord card c) := by
  have hnames : ∀ (db : Database) (x : Relation × LookupKind × List String),
      Grows db (x.2.2.foldl (linkName card x.1 x.2.1) db) :=
    fun db x => grows_foldl (grows_linkName card x.1 x.2.1) x.2.2 db
  exact ((grows_foldl hnames c.names db).trans
    (grows_foldl (grows_linkDiscipline card) c.disciplines _)).trans
    (grows_foldl (grows_linkRarity card) c.rarities _)

theorem grows_addCard {c : CardRecord} {db' : Database} {id : CardId}
    (h : db.addCard c = .ok (db', id)) : Grows db db' := by
  obtain ⟨⟨pushed, id'⟩, hpush, h⟩ := Outcome.bind_ok h
  obtain ⟨rfl, rfl⟩ := Prod.mk.inj (Except.ok.inj h)
  exact (grows_pushCard hpush).trans (grows_linkRecord pushed id' c)

theorem grows_addCards (db : Database) (added : Nat) (cs : List CardRecord) :
    Grows db (db.addCards added cs).1 := by
  induction cs generalizing db added with
  | nil => exact (SameCatalog.refl db).grows
  | cons c cs ih =>
    rw [addCards]
    split
    · rename_i hadd
      exact (grows_addCard hadd).trans (ih _ _)
    · exact (SameCatalog.refl db).grows

theorem grows_loadCatalog (db : Database) (catalog : Catalog) :
    Grows db (db.loadCatalog catalog).1 :=
  (grows_foldl (fun db r => grows_addLookup db r.kind r.name r.otherName) catalog.lookups db).trans
    (grows_addCards _ 0 catalog.cards)

end CardBinder.Database
