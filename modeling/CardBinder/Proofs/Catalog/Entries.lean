import CardBinder.Proofs.Database.Valid

/-! Entries and pairs as they are found: by a name of their own, by what they pair, and by their number. -/

namespace CardBinder.Database
variable {db : Database} {kind : LookupKind} {e e' : LookupEntry} {id : LookupId} {pair : PairId}

/-! Entries -/

theorem CatalogValid.findLookup_name (hv : db.CatalogValid) (he : e ∈ db.lookupEntries kind) :
    db.findLookup kind e.name = some e.id :=
  (hv.lookups kind).finds e he _ List.mem_cons_self

theorem CatalogValid.resolve_name (hv : db.CatalogValid) (he : e ∈ db.lookupEntries kind) :
    db.resolve kind e.name = .ok e.id := by
  rw [resolve, hv.findLookup_name he]

/-- Blanks around the name do not matter. -/
theorem CatalogValid.resolve_trim (hv : db.CatalogValid) (he : e ∈ db.lookupEntries kind) :
    db.resolve kind (Text.trim e.name) = .ok e.id := by
  have hfound : db.findLookup kind (Text.trim e.name) = some e.id := by
    rw [← hv.findLookup_name he, findLookup, LookupTable.find, canonicalName_trim]
    rfl
  rw [resolve, hfound]

theorem InPlace.entry_eq (hp : db.InPlace) (he : e ∈ db.lookupEntries kind)
    (he' : e' ∈ db.lookupEntries kind) (h : e.id = e'.id) : e = e' :=
  (hp.entries kind).inOrder.inj he he' (congrArg RowId.val h)

/-- Entries of one name are one. -/
theorem CatalogValid.entry_eq_of_name (hv : db.CatalogValid) (hp : db.InPlace)
    (he : e ∈ db.lookupEntries kind) (he' : e' ∈ db.lookupEntries kind) (h : e.name = e'.name) :
    e = e' := by
  have hfound := hv.findLookup_name he
  rw [h, hv.findLookup_name he'] at hfound
  exact hp.entry_eq he he' (Option.some.inj hfound).symm

theorem InPlace.lookupName_eq_some_iff (hp : db.InPlace) {name : String} :
    db.lookupName kind id = some name ↔ ∃ e ∈ db.lookupEntries kind, e.id = id ∧ e.name = name := by
  rw [lookupName, Option.map_eq_some_iff]
  constructor
  · rintro ⟨e, he, rfl⟩
    exact ⟨e, List.mem_of_getElem? he, RowId.ext (hp.entries kind _ _ he), rfl⟩
  · rintro ⟨e, he, rfl, rfl⟩
    exact ⟨e, (hp.entries kind).getElem?_key he, rfl⟩

/-! Pairs -/

theorem InPlace.disciplinePair?_eq_some_iff (hp : db.InPlace) {p : DisciplinePair} :
    db.disciplinePair? pair = some p ↔ p ∈ db.disciplinePairs ∧ p.id = pair := by
  constructor
  · intro h
    exact ⟨List.mem_of_getElem? h, RowId.ext (hp.disciplinePairs _ _ h)⟩
  · rintro ⟨h, rfl⟩
    exact hp.disciplinePairs.getElem?_key h

theorem InPlace.rarityPair?_eq_some_iff (hp : db.InPlace) {p : RarityPair} :
    db.rarityPair? pair = some p ↔ p ∈ db.rarityPairs ∧ p.id = pair := by
  constructor
  · intro h
    exact ⟨List.mem_of_getElem? h, RowId.ext (hp.rarityPairs _ _ h)⟩
  · rintro ⟨h, rfl⟩
    exact hp.rarityPairs.getElem?_key h

theorem CatalogValid.findDisciplinePair_eq_some_iff (hv : db.CatalogValid) {d : LookupId}
    {l : DisciplineLevel} : db.findDisciplinePair d l = some pair ↔
      ∃ p ∈ db.disciplinePairs, p.discipline = d ∧ p.level = l ∧ p.id = pair := by
  rw [findDisciplinePair, Option.map_eq_some_iff]
  refine exists_congr fun p => ?_
  rw [find?_eq_some_iff_of_nodup (k := (d, l)) hv.disciplinesOnce (by simp), Prod.mk.injEq, and_assoc,
    and_assoc]

theorem CatalogValid.findRarityPair_eq_some_iff (hv : db.CatalogValid) {expansion rarity : LookupId} :
    db.findRarityPair expansion rarity = some pair ↔
      ∃ p ∈ db.rarityPairs, p.expansion = expansion ∧ p.rarity = rarity ∧ p.id = pair := by
  rw [findRarityPair, Option.map_eq_some_iff]
  refine exists_congr fun p => ?_
  rw [find?_eq_some_iff_of_nodup (k := (expansion, rarity)) hv.raritiesOnce (by simp),
    Prod.mk.injEq, and_assoc, and_assoc]

end CardBinder.Database
