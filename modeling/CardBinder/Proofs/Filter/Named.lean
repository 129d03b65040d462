import CardBinder.Filter.Named
import CardBinder.Proofs.Catalog.Entries
import CardBinder.Proofs.Outcome

/-! What the names of entries stand for in filters. -/

namespace CardBinder.Filter
open Database
variable {db : Database} {e : LookupEntry} {r : Relation} {kind : LookupKind} {name : String}
  {α β : Type}

theorem resolveEach_strict (resolve : α → Outcome β) (xs : List α) :
    resolveEach true resolve xs = xs.mapM resolve := by
  induction xs with
  | nil => rfl
  | cons x xs ih =>
    rw [resolveEach, List.mapM_cons, ih]
    cases resolve x with
    | error failure => rfl
    | ok y => cases xs.mapM resolve <;> rfl

/-- The pairs of a discipline, at either level. -/
def disciplineLinks (db : Database) (id : LookupId) : List Nat :=
  (db.disciplinePairs.filter (·.discipline == id)).map (·.id.val)

/-- The pairs of an expansion, at any rarity. -/
def expansionLinks (db : Database) (id : LookupId) : List Nat :=
  (db.rarityPairs.filter (·.expansion == id)).map (·.id.val)

/-- The pair of a discipline at a level, if any card has it. -/
def levelLinks (db : Database) (id : LookupId) (level : DisciplineLevel) : List Nat :=
  ((db.findDisciplinePair id level).map (·.val)).toList

theorem mem_levelLinks (hv : db.CatalogValid) {id : LookupId} {level : DisciplineLevel} {n : Nat} :
    n ∈ levelLinks db id level ↔
      ∃ p ∈ db.disciplinePairs, p.discipline = id ∧ p.level = level ∧ p.id.val = n := by
  simp only [levelLinks, Option.mem_toList, Option.map_eq_some_iff, hv.findDisciplinePair_eq_some_iff]
  constructor
  · rintro ⟨_, ⟨p, hpair, hd, hl, rfl⟩, rfl⟩
    exact ⟨p, hpair, hd, hl, rfl⟩
  · rintro ⟨p, hpair, hd, hl, rfl⟩
    exact ⟨p.id, ⟨p, hpair, hd, hl, rfl⟩, rfl⟩

/-! Targets -/

theorem targets_entry (hv : db.CatalogValid) (hr : r.lookupKind? = some kind)
    (he : e ∈ db.lookupEntries kind) : targets db r e.name = .ok [e.id.val] := by
  rw [targets, hr]
  simp only [entryTargets, hv.resolve_name he]
  rfl

theorem targets_discipline (hv : db.CatalogValid) (he : e ∈ db.lookupEntries .discipline) :
    targets db .discipline e.name = .ok (disciplineLinks db e.id) := by
  simp only [targets, Relation.lookupKind?, if_true, disciplineTargets, hv.resolve_name he]
  rfl

theorem targets_expansion (hv : db.CatalogValid) (he : e ∈ db.lookupEntries .expansion) :
    targets db .rarity e.name = .ok (expansionLinks db e.id) := by
  simp only [targets, Relation.lookupKind?, reduceCtorEq, if_false, expansionTargets,
    hv.resolve_name he]
  rfl

theorem levelTargets_entry (hv : db.CatalogValid) (he : e ∈ db.lookupEntries .discipline)
    (level : DisciplineLevel) : levelTargets db e.name level = .ok (levelLinks db e.id level) := by
  simp only [levelTargets, hv.resolve_name he]
  rfl

/-! Filters of one name -/

theorem ofName_eq {ts : List Nat} (h : targets db r name = .ok ts) :
    ofName db r name = .ok (.related r ts) := by
  simp only [ofName, lookup, resolveEach, h]
  exact congrArg (fun ts => Except.ok (Filter.related r ts)) (by simp)

theorem ofName_entry (hv : db.CatalogValid) (hr : r.lookupKind? = some kind)
    (he : e ∈ db.lookupEntries kind) : ofName db r e.name = .ok (.related r [e.id.val]) :=
  ofName_eq (targets_entry hv hr he)

theorem ofName_discipline (hv : db.CatalogValid) (he : e ∈ db.lookupEntries .discipline) :
    ofName db .discipline e.name = .ok (.related .discipline (disciplineLinks db e.id)) :=
  ofName_eq (targets_discipline hv he)

theorem ofName_expansion (hv : db.CatalogValid) (he : e ∈ db.lookupEntries .expansion) :
    ofName db .rarity e.name = .ok (.related .rarity (expansionLinks db e.id)) :=
  ofName_eq (targets_expansion hv he)

theorem disciplineLevels_entry (hv : db.CatalogValid) (he : e ∈ db.lookupEntries .discipline)
    (level : DisciplineLevel) : disciplineLevels db [(e.name, level)] true =
      .ok (.related .discipline (levelLinks db e.id level)) := by
  simp only [disciplineLevels, resolveEach, levelTargets_entry hv he]
  exact congrArg (fun ts => Except.ok (Filter.related .discipline ts)) (by simp)

end CardBinder.Filter
