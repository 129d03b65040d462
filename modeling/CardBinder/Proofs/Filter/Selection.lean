import CardBinder.Proofs.Database.Valid
import CardBinder.Proofs.Filter
import CardBinder.Proofs.Filter.Built

/-! What filters select: whatever rows are looked at, the same cards and the same printings, and of a
combination what its parts select. -/

namespace CardBinder

/-- The table of a row. -/
def Row.entity : Row → Entity
  | .card _ => .card
  | .printing _ => .printing
  | .copy _ => .copy
  | .cardSet _ => .cardSet

namespace Database
variable {db : Database} {row row' : Row} {cs : List Condition} {e : Entity}

theorem satisfiesAll_iff : db.satisfiesAll row cs ↔ ∀ c ∈ cs, db.satisfies row c := by
  induction cs with
  | nil => simp [satisfiesAll]
  | cons c cs ih => simp [satisfiesAll, ih]

theorem satisfiesAny_iff : db.satisfiesAny row cs ↔ ∃ c ∈ cs, db.satisfies row c := by
  induction cs with
  | nil => simp [satisfiesAny]
  | cons c cs ih => simp [satisfiesAny, ih]

theorem entity_of_mem_rows (h : row ∈ db.rows e) : row.entity = e := by
  cases e <;> obtain ⟨_, _, rfl⟩ := List.mem_map.mp h <;> rfl

theorem rows_ascend (hv : db.Valid) (hp : db.InPlace) (e : Entity) :
    (db.rows e).Pairwise (·.number < ·.number) := by
  cases e with
  | card => exact List.pairwise_map.mpr hp.cards.inOrder.ascends
  | printing => exact List.pairwise_map.mpr hp.printings.inOrder.ascends
  | cardSet => exact List.pairwise_map.mpr hv.cardSets.ascends
  | copy => exact List.pairwise_map.mpr hv.copies.ascends

/-! What rows reach -/

theorem rowPrinting?_printing (hp : db.InPlace) {p : Printing} (h : p ∈ db.printings) :
    db.rowPrinting? (.printing p.id) = some p :=
  hp.printing?_eq_some_iff.mpr ⟨h, rfl⟩

theorem rowCard?_printing (hp : db.InPlace) {p : Printing} (h : p ∈ db.printings) :
    db.rowCard? (.printing p.id) = db.rowCard? (.card p.card) :=
  congrArg (·.bind fun p => db.card? p.card) (rowPrinting?_printing hp h)

theorem rowPrinting?_copy (hv : db.Valid) {c : Copy} (h : c ∈ db.copies) :
    db.rowPrinting? (.copy c.id) = db.rowPrinting? (.printing c.printing) := by
  have hcopy : db.copy? c.id = some c := (rowAt?_eq_some_iff hv.copies).mpr ⟨h, rfl⟩
  exact congrArg (·.bind fun c => db.printing? c.printing) hcopy

theorem rowCard?_copy (hv : db.Valid) {c : Copy} (h : c ∈ db.copies) :
    db.rowCard? (.copy c.id) = db.rowCard? (.printing c.printing) :=
  congrArg (·.bind fun p => db.card? p.card) (rowPrinting?_copy hv h)

end Database

namespace Filter
variable {db : Database} {f : Filter} {fs : List Filter} {row row' : Row} {c : Condition}
  {e : Entity}

/-- A filter selects a row from the row's table. -/
def Picks (f : Filter) (db : Database) (row : Row) : Prop :=
  ∃ rows, f.select db row.entity = .ok rows ∧ row ∈ rows

/-- Two rows agree in all that a filter may look at: in the printing, unless it is about cards alone. -/
def AgreeFor (db : Database) (row row' : Row) (f : Filter) : Prop :=
  f.selects .card ∨ f.selects .printing ∧ db.rowPrinting? row = db.rowPrinting? row'

theorem AgreeFor.all (h : AgreeFor db row row' (.all fs)) : ∀ f ∈ fs, AgreeFor db row row' f :=
  fun f hf => h.imp (fun h => selectsAll_iff.mp h f hf)
    (And.imp_left fun h => selectsAll_iff.mp h f hf)

/-- Rows of the same card satisfy the same filters, as far as they agree for them. -/
theorem RolesOfCards.satisfies_eq (h : f.RolesOfCards) (hc : f.condition db = .ok c)
    (hcard : db.rowCard? row = db.rowCard? row') (hagree : AgreeFor db row row' f) :
    db.satisfies row c = db.satisfies row' c := by
  induction h generalizing c with
  | @intro f _ hrole ih =>
    have hparts : ∀ {cs}, conditions db f.parts = .ok cs →
        (∀ part ∈ f.parts, AgreeFor db row row' part) →
        ∀ c ∈ cs, db.satisfies row c = db.satisfies row' c := by
      intro cs hcs hagree c hmem
      obtain ⟨asked, hasked, rfl⟩ := conditions_ok hcs
      obtain ⟨part, hpart, rfl⟩ := List.mem_map.mp hmem
      exact ih part hpart (hasked part hpart) (hagree part hpart)
    cases f with
    | everything =>
      obtain rfl := Except.ok.inj hc
      rfl
    | all fs =>
      obtain ⟨cs, hcs, rfl⟩ := Outcome.map_ok hc
      rw [Database.satisfies, Database.satisfies, Bool.eq_iff_iff, Database.satisfiesAll_iff,
        Database.satisfiesAll_iff]
      exact forall₂_congr fun c hmem => by rw [hparts hcs hagree.all c hmem]
    | any fs =>
      obtain ⟨cs, hcs, rfl⟩ := Outcome.map_ok hc
      rw [Database.satisfies, Database.satisfies, Bool.eq_iff_iff, Database.satisfiesAny_iff,
        Database.satisfiesAny_iff]
      exact exists_congr fun c => and_congr_right fun hmem => by
        rw [hparts hcs (AgreeFor.all hagree) c hmem]
    | not part =>
      obtain ⟨asked, hasked, rfl⟩ := Outcome.map_ok hc
      rw [Database.satisfies, Database.satisfies, ih part List.mem_cons_self hasked hagree]
    | role composed => exact ih composed List.mem_cons_self hc (Or.inl (hrole composed rfl))
    | related | number | costType | cards | counted =>
      obtain rfl := Except.ok.inj hc
      simp only [Database.satisfies, hcard]
    | cardText needle =>
      obtain ⟨p, _, rfl⟩ := Outcome.map_ok hc
      have htext : db.rowText? row (textColumn needle) = db.rowText? row' (textColumn needle) := by
        rw [textColumn]
        split <;> simp only [Database.rowText?, hcard]
      rw [Database.satisfies, Database.satisfies, htext]
    | cardName pattern =>
      obtain ⟨p, _, rfl⟩ := Outcome.map_ok hc
      simp only [Database.satisfies, Database.rowText?, hcard]
    | printedIn | inUse =>
      obtain rfl := Except.ok.inj hc
      obtain ⟨_, hprinting⟩ := hagree.resolve_left (by simp [selects, Entity.withPrinting])
      simp only [Database.satisfies, hprinting]
    | inSets | setText | setInUse | childOf => simp [AgreeFor, selects] at hagree

/-! Rows that are selected -/

theorem picks_iff (hc : f.condition db = .ok c) : f.Picks db row ↔
    f.selects row.entity ∧ row ∈ db.rows row.entity ∧ db.satisfies row c := by
  rw [Picks, select]
  split
  · rename_i hselects
    rw [hc]
    simp [Except.map, hselects, Database.select]
  · rename_i hselects
    simp [hselects]

theorem picks_iff_of_mem (hc : f.condition db = .ok c) (he : f.selects e)
    (hrow : row ∈ db.rows e) : f.Picks db row ↔ db.satisfies row c := by
  obtain rfl := Database.entity_of_mem_rows hrow
  rw [picks_iff hc]
  exact ⟨fun h => h.2.2, fun h => ⟨he, hrow, h⟩⟩

theorem condition_of_picks (h : f.Picks db row) :
    ∃ c, f.condition db = .ok c ∧ f.selects row.entity ∧ row ∈ db.rows row.entity := by
  obtain ⟨rows, hrows, hrow⟩ := h
  have hmem := select_subset hrows hrow
  rw [select] at hrows
  split at hrows
  · rename_i hselects
    obtain ⟨c, hc, _⟩ := Outcome.map_ok hrows
    exact ⟨c, hc, hselects, hmem⟩
  · cases hrows

theorem card_mem_rows {card : Card} (h : db.card? card.id = some card) :
    .card card.id ∈ db.rows .card :=
  List.mem_map_of_mem (List.mem_of_getElem? h)

theorem cardSet_mem_rows {cs : CardSet} (h : db.cardSet? cs.id = some cs) :
    .cardSet cs.id ∈ db.rows .cardSet :=
  List.mem_map_of_mem (Database.cardSet?_some h).1

/-- A text filter selects a row whose text the pattern matches, if the pattern is not too large. -/
theorem picks_like {pattern text : String} {column : TextColumn}
    (hc : f.condition db = (Like.checked pattern).map (.like column))
    (he : f.selects row.entity) (hrow : row ∈ db.rows row.entity)
    (htext : db.rowText? row column = some text) :
    f.Picks db row ↔ Like.fits pattern ∧ Like.isMatch pattern text := by
  by_cases hfits : Like.fits pattern
  · rw [Like.checked, if_pos hfits] at hc
    rw [picks_iff_of_mem hc he hrow, Database.satisfies, htext]
    simp [hfits]
  · rw [Picks, select, if_pos he, hc, Like.checked, if_neg hfits]
    simp [Except.map, hfits]

theorem RolesOfCards.picks_iff (h : f.RolesOfCards) (hc : f.condition db = .ok c)
    {e' : Entity} (he : f.selects e) (he' : f.selects e')
    (hrow : row ∈ db.rows e) (hrow' : row' ∈ db.rows e')
    (hcard : db.rowCard? row = db.rowCard? row') (hagree : AgreeFor db row row' f) :
    f.Picks db row ↔ f.Picks db row' := by
  rw [picks_iff_of_mem hc he hrow, picks_iff_of_mem hc he' hrow', h.satisfies_eq hc hcard hagree]

/-- A filter that can select cards can select printings, and one that can select printings can
select copies. -/
theorem selects_finer (f : Filter) :
    (f.selects .card → f.selects .printing) ∧ (f.selects .printing → f.selects .copy) := by
  induction f using induction_parts with
  | step f ih =>
    cases f with
    | all fs | any fs =>
      simp only [selects, selectsAll_iff]
      exact ⟨fun h f hf => (ih f hf).1 (h f hf), fun h f hf => (ih f hf).2 (h f hf)⟩
    | not part => exact ih part List.mem_cons_self
    | _ => simp [selects, Entity.withCard, Entity.withPrinting]

theorem RolesOfCards.picks_printing (h : f.RolesOfCards) (hc : f.condition db = .ok c)
    (hv : db.Valid) (hp : db.InPlace) (he : f.selects .card) {p : Printing}
    (hmem : p ∈ db.printings) : f.Picks db (.printing p.id) ↔ f.Picks db (.card p.card) := by
  obtain ⟨card, hcard, hid⟩ := hv.exists_card hmem
  have hrow : Row.card p.card ∈ db.rows .card := hid ▸ List.mem_map_of_mem hcard
  exact h.picks_iff hc ((selects_finer f).1 he) he (List.mem_map_of_mem hmem) hrow
    (Database.rowCard?_printing hp hmem) (Or.inl he)

theorem RolesOfCards.picks_copy (h : f.RolesOfCards) (hc : f.condition db = .ok c)
    (hv : db.Valid) (hp : db.InPlace) (he : f.selects .printing) {x : Copy}
    (hmem : x ∈ db.copies) : f.Picks db (.copy x.id) ↔ f.Picks db (.printing x.printing) := by
  obtain ⟨p, hprinting⟩ := Option.isSome_iff_exists.mp (hv.copyPrintings x hmem)
  obtain ⟨hknown, hid⟩ := hp.printing?_eq_some_iff.mp hprinting
  have hrow : Row.printing x.printing ∈ db.rows .printing := hid ▸ List.mem_map_of_mem hknown
  exact h.picks_iff hc ((selects_finer f).2 he) he (List.mem_map_of_mem hmem) hrow
    (Database.rowCard?_copy hv hmem) (Or.inr ⟨he, Database.rowPrinting?_copy hv hmem⟩)

/-! Combinations -/

theorem picks_all (hc : (Filter.all fs).condition db = .ok c) (he : (Filter.all fs).selects e)
    (hrow : row ∈ db.rows e) : (Filter.all fs).Picks db row ↔ ∀ part ∈ fs, part.Picks db row := by
  rw [picks_iff_of_mem hc he hrow]
  obtain ⟨cs, hcs, rfl⟩ := Outcome.map_ok hc
  obtain ⟨asked, hasked, rfl⟩ := conditions_ok hcs
  rw [Database.satisfies, Database.satisfiesAll_iff, List.forall_mem_map]
  exact forall₂_congr fun part hpart =>
    (picks_iff_of_mem (hasked part hpart) (selectsAll_iff.mp he part hpart) hrow).symm

/-- A row is selected by all filters together when it is selected by each: where one of them fails,
they do so together. -/
theorem picks_all_iff (hrow : row ∈ db.rows row.entity) :
    (Filter.all fs).Picks db row ↔ ∀ part ∈ fs, part.Picks db row := by
  constructor
  · intro h
    obtain ⟨c, hc, hselects, _⟩ := condition_of_picks h
    exact (picks_all hc hselects hrow).mp h
  · intro h
    have hparts : ∀ part ∈ fs, ∃ c, part.condition db = .ok c ∧ part.selects row.entity ∧
        row ∈ db.rows row.entity := fun part hpart => condition_of_picks (h part hpart)
    choose! c hc using hparts
    have hall : (Filter.all fs).condition db = .ok (.all (fs.map c)) := by
      rw [condition, conditions_eq_ok fun part hpart => (hc part hpart).1]
      rfl
    have hselects : (Filter.all fs).selects row.entity :=
      selectsAll_iff.mpr fun part hpart => (hc part hpart).2.1
    exact (picks_all hall hselects hrow).mpr h

theorem picks_any (hc : (Filter.any fs).condition db = .ok c) (he : (Filter.any fs).selects e)
    (hrow : row ∈ db.rows e) : (Filter.any fs).Picks db row ↔ ∃ part ∈ fs, part.Picks db row := by
  rw [picks_iff_of_mem hc he hrow]
  obtain ⟨cs, hcs, rfl⟩ := Outcome.map_ok hc
  obtain ⟨asked, hasked, rfl⟩ := conditions_ok hcs
  rw [Database.satisfies, Database.satisfiesAny_iff]
  simp only [List.mem_map, exists_exists_and_eq_and]
  exact exists_congr fun part => and_congr_right fun hpart =>
    (picks_iff_of_mem (hasked part hpart) (selectsAll_iff.mp he part hpart) hrow).symm

theorem picks_not (hc : (Filter.not f).condition db = .ok c) (he : (Filter.not f).selects e)
    (hrow : row ∈ db.rows e) : (Filter.not f).Picks db row ↔ ¬ f.Picks db row := by
  rw [picks_iff_of_mem hc he hrow]
  obtain ⟨asked, hasked, rfl⟩ := Outcome.map_ok hc
  rw [picks_iff_of_mem hasked he hrow, Database.satisfies]
  simp

/-! All rows of a table -/

theorem select_eq_ok (hc : f.condition db = .ok c) (he : f.selects e) :
    f.select db e = .ok (db.select e c) := by
  rw [select, if_pos he, hc]
  rfl

/-- The numbers of the rows that are selected are those of the rows that satisfy the condition. -/
theorem filterMap_select {α : Type} {row : α → Row} {number? : Row → Option α} {ids : List α}
    (hrows : db.rows e = ids.map row) (hnumber : ∀ id, number? (row id) = some id)
    (c : Condition) :
    (db.select e c).filterMap number? = ids.filter fun id => db.satisfies (row id) c := by
  rw [Database.select, hrows, List.filter_map, List.filterMap_map,
    show number? ∘ row = some from funext hnumber, List.filterMap_some]
  rfl

theorem selectCards_eq_ok (hc : f.condition db = .ok c) (he : f.selects .card) :
    f.selectCards db =
      .ok ((db.cards.map (·.id)).filter fun id => db.satisfies (.card id) c) := by
  have hrows : db.rows .card = (db.cards.map (·.id)).map .card := List.map_map.symm
  rw [selectCards, select_eq_ok hc he]
  exact congrArg Except.ok (filterMap_select hrows (fun _ => rfl) c)

theorem selectPrintings_eq_ok (hc : f.condition db = .ok c) (he : f.selects .printing) :
    f.selectPrintings db =
      .ok ((db.printings.map (·.id)).filter fun id => db.satisfies (.printing id) c) := by
  have hrows : db.rows .printing = (db.printings.map (·.id)).map .printing := List.map_map.symm
  rw [selectPrintings, select_eq_ok hc he]
  exact congrArg Except.ok (filterMap_select hrows (fun _ => rfl) c)

theorem selectCards_ok {ids : List CardId} (h : f.selectCards db = .ok ids) :
    f.selects .card ∧ ∃ c, f.condition db = .ok c ∧
      (db.cards.map (·.id)).filter (fun id => db.satisfies (.card id) c) = ids := by
  obtain ⟨rows, hrows, _⟩ := Outcome.map_ok h
  rw [select] at hrows
  split at hrows
  · rename_i hselects
    obtain ⟨c, hc, _⟩ := Outcome.map_ok hrows
    exact ⟨hselects, c, hc, Except.ok.inj ((selectCards_eq_ok hc hselects).symm.trans h)⟩
  · cases hrows

theorem select_eq_unsupported_iff (hc : f.condition db = .ok c) :
    f.select db e = .error (.unsupportedEntity f.name e) ↔
      ∃ leaf ∈ f.leaves, e ∉ leaf.entities := by
  have hleaves : f.selects e ↔ ¬ ∃ leaf ∈ f.leaves, e ∉ leaf.entities := by
    simp only [selects_iff (f := f), mem_entities]
    push Not
    rfl
  by_cases he : f.selects e
  · rw [select_eq_ok hc he]
    simpa using hleaves.mp he
  · rw [select, if_neg he]
    simpa using not_not.mp (mt hleaves.mpr he)

/-- What is selected from a database does not depend on which rows are looked at, and what a
combination selects is told by its parts. -/
structure SelectsByParts (f : Filter) (db : Database) : Prop where
  printing_iff_card : .card ∈ f.entities → ∀ p ∈ db.printings,
    (f.Picks db (.printing p.id) ↔ f.Picks db (.card p.card))
  copy_iff_card : .card ∈ f.entities → ∀ c ∈ db.copies, ∀ p ∈ db.printing? c.printing,
    (f.Picks db (.copy c.id) ↔ f.Picks db (.card p.card))
  copy_iff_printing : .printing ∈ f.entities → ∀ c ∈ db.copies,
    (f.Picks db (.copy c.id) ↔ f.Picks db (.printing c.printing))
  ascends : ∀ e ∈ f.entities, ∃ rows, f.select db e = .ok rows ∧ rows ⊆ db.rows e ∧
    rows.Pairwise (·.number < ·.number)
  all : ∀ parts, f = .all parts → ∀ e ∈ f.entities, ∀ row ∈ db.rows e,
    (f.Picks db row ↔ ∀ part ∈ parts, part.Picks db row)
  any : ∀ parts, f = .any parts → ∀ e ∈ f.entities, ∀ row ∈ db.rows e,
    (f.Picks db row ↔ ∃ part ∈ parts, part.Picks db row)
  not : ∀ part, f = .not part → ∀ e ∈ f.entities, ∀ row ∈ db.rows e,
    (f.Picks db row ↔ ¬ part.Picks db row)
  unsupported : ∀ e, f.select db e = .error (.unsupportedEntity f.name e) ↔
    ∃ leaf ∈ f.leaves, e ∉ leaf.entities

/-- A filter that is made by name, by value or out of others selects by parts from every valid
database, if none of its patterns is too large. -/
theorem Built.selectsByParts (h : f.Built) (hfits : ∀ p ∈ f.patterns, Like.fits p)
    (hv : db.Valid) (hp : db.InPlace) : f.SelectsByParts db := by
  obtain ⟨c, hc⟩ := exists_condition hfits db
  have hroles := h.rolesOfCards
  constructor
  case printing_iff_card =>
    intro hcard p hmem
    exact hroles.picks_printing hc hv hp (mem_entities.mp hcard) hmem
  case copy_iff_card =>
    intro hcard x hmem p hprinting
    have he := mem_entities.mp hcard
    obtain ⟨hknown, hid⟩ := hp.printing?_eq_some_iff.mp hprinting
    rw [hroles.picks_copy hc hv hp ((selects_finer f).1 he) hmem, ← hid]
    exact hroles.picks_printing hc hv hp he hknown
  case copy_iff_printing =>
    intro hprinting x hmem
    exact hroles.picks_copy hc hv hp (mem_entities.mp hprinting) hmem
  case ascends =>
    intro e he
    exact ⟨_, select_eq_ok hc (mem_entities.mp he), List.filter_sublist.subset,
      (Database.rows_ascend hv hp e).filter _⟩
  case all =>
    rintro parts rfl e he row hrow
    exact picks_all hc (mem_entities.mp he) hrow
  case any =>
    rintro parts rfl e he row hrow
    exact picks_any hc (mem_entities.mp he) hrow
  case not =>
    rintro part rfl e he row hrow
    exact picks_not hc (mem_entities.mp he) hrow
  case unsupported => exact fun e => select_eq_unsupported_iff hc

/-- Cards with names of three letters, printed in a known expansion. -/
def shortNames : Filter :=
  .all [.cardName "___", .not (.printedIn [none])]

theorem selectsByParts_shortNames : shortNames.SelectsByParts Database.binder ∧
    shortNames.select Database.binder .copy = .ok [.copy ⟨1⟩, .copy ⟨2⟩, .copy ⟨4⟩, .copy ⟨5⟩] ∧
    shortNames.select Database.binder .card = .error (.unsupportedEntity "And" .card) := by
  have hbuilt : shortNames.Built := by
    have hnone : printings Database.binder [none] true = .ok (.printedIn [none]) := rfl
    refine .all (List.forall_mem_cons.mpr ⟨.nameLike "___", ?_⟩)
    exact List.forall_mem_singleton.mpr (.not (.printings hnone))
  exact ⟨hbuilt.selectsByParts (by decide +kernel) Database.valid_binder Database.inPlace_binder,
    by decide +kernel, by decide +kernel⟩

end Filter
end CardBinder
