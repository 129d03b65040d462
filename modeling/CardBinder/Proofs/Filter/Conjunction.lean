import CardBinder.Database.Document
import CardBinder.Proofs.Database.Stocked
import CardBinder.Proofs.Filter.Expression

/-! Several expressions together: they select the cards that each of them selects alone, when the
keyword of each can select cards. -/

namespace CardBinder

/-! The tables of a keyword -/

/-- What is built of any values can select from the tables of its kind. -/
theorem FilterEntry.entities_build {db : Database} {e : FilterEntry} {values : List String}
    {f : Filter} (h : e.build db values = .ok f) : f.entities = e.kind.entities := by
  by_cases hcount : e.kind = .cardCount
  · simp only [build, hcount] at h
    obtain ⟨counts, _, h⟩ := Outcome.bind_ok h
    obtain ⟨sets, _, h⟩ := Outcome.bind_ok h
    obtain rfl := Except.ok.inj h
    rw [hcount]
    rfl
  cases hinput : e.kind.input with
  | list | withList =>
    obtain ⟨_, _, _, _, hreads⟩ := exists_reads (by simp [hinput]) hcount db
    exact hreads.unites.entities values f h
  | text =>
    obtain ⟨make, hmake, htables⟩ := FilterKind.exists_ofText hinput
    rw [build_text hmake] at h
    obtain rfl := Except.ok.inj h
    exact htables _
  | flag =>
    rw [build] at h
    cases hk : e.kind <;> rw [hk] at h hinput <;> cases hinput <;> obtain rfl := Except.ok.inj h <;> rfl

/-- The keyword of an expression is one that can select from the table. -/
def FilterExpression.Concerns (expr : String) (entity : Entity) : Prop :=
  ∃ e entry, parse expr = .ok e ∧ filterEntry? e.keyword = some entry ∧ entity ∈ entry.entities

theorem Filter.selects_iff_concerns {db : Database} {expr : String} {f : Filter} {entity : Entity}
    (h : db.parseFilter expr = .ok f) : f.selects entity ↔ FilterExpression.Concerns expr entity := by
  obtain ⟨e, hparse, h⟩ := Outcome.bind_ok h
  obtain ⟨g, hbuild, h⟩ := Outcome.bind_ok h
  have hsame : f.selects entity ↔ g.selects entity := by
    obtain rfl := Except.ok.inj h
    cases e.negated <;> rfl
  rw [buildFilter] at hbuild
  split at hbuild
  · cases hbuild
  · rename_i entry hentry
    have hentities := (vocabulary_kinds entry (mem_vocabulary hentry).1).1
    rw [hsame, ← mem_entities, FilterEntry.entities_build hbuild, ← hentities]
    constructor
    · exact fun hmem => ⟨e, entry, hparse, hentry, hmem⟩
    · rintro ⟨e', entry', hparse', hentry', hmem⟩
      obtain rfl := Except.ok.inj (hparse.symm.trans hparse')
      obtain rfl := Option.some.inj (hentry.symm.trans hentry')
      exact hmem

/-! Filters taken together -/

namespace Filter
variable {db : Database} {f : Filter} {fs : List Filter} {c : Filter → Condition} {e : Entity}

/-- Several filters as one; a filter alone stays as it is. -/
def together : List Filter → Filter
  | [f] => f
  | fs => .all fs

theorem selects_together : (together fs).selects e ↔ ∀ f ∈ fs, f.selects e := by
  rw [together.eq_def]
  split
  · simp
  · exact selectsAll_iff

theorem condition_together (hc : ∀ f ∈ fs, f.condition db = .ok (c f)) :
    ∃ d, (together fs).condition db = .ok d ∧
      ∀ row, db.satisfies row d ↔ ∀ f ∈ fs, db.satisfies row (c f) := by
  rw [together.eq_def]
  split
  · rename_i f
    exact ⟨c f, hc f List.mem_cons_self, by simp⟩
  · refine ⟨.all (fs.map c), Outcome.map_of_ok (conditions_eq_ok hc), fun row => ?_⟩
    rw [Database.satisfies, Database.satisfiesAll_iff, List.forall_mem_map]

end Filter

/-! Expressions taken together -/

namespace Database
open FilterExpression (Concerns)
variable {db : Database} {exprs : List String} {f : String → Filter} {c : Filter → Condition}
  {ids : List CardId}

theorem filterCards_eq (hf : ∀ expr ∈ exprs, db.parseFilter expr = .ok (f expr)) :
    db.filterCards exprs = (Filter.together (exprs.map f)).selectCards db := by
  have hparsed : exprs.mapM db.parseFilter = .ok (exprs.map f) := by
    rw [Outcome.mapM_ok_iff, List.forall₂_map_right_iff, List.forall₂_same]
    exact hf
  rw [filterCards, combinedFilter, hparsed, Filter.together.eq_def]
  cases exprs.map f with
  | nil => rfl
  | cons f fs => cases fs <;> rfl

theorem filterCards_eq_ok (hf : ∀ expr ∈ exprs, db.parseFilter expr = .ok (f expr))
    (hc : ∀ expr ∈ exprs, (f expr).condition db = .ok (c (f expr)))
    (hconcerns : ∀ expr ∈ exprs, Concerns expr .card) :
    db.filterCards exprs = .ok ((db.cards.map (·.id)).filter fun id =>
      exprs.all fun expr => db.satisfies (.card id) (c (f expr))) := by
  obtain ⟨d, hd, hsat⟩ := Filter.condition_together (List.forall_mem_map.mpr hc)
  have hselects : (Filter.together (exprs.map f)).selects .card :=
    Filter.selects_together.mpr <| List.forall_mem_map.mpr fun expr hexpr =>
      (Filter.selects_iff_concerns (hf expr hexpr)).mpr (hconcerns expr hexpr)
  rw [filterCards_eq hf, Filter.selectCards_eq_ok hd hselects]
  refine congrArg Except.ok (List.filter_congr fun id _ => ?_)
  rw [Bool.eq_iff_iff, hsat, List.forall_mem_map, List.all_eq_true]

theorem concerns_of_filterCards (hf : ∀ expr ∈ exprs, db.parseFilter expr = .ok (f expr))
    (h : db.filterCards exprs = .ok ids) : ∀ expr ∈ exprs, Concerns expr .card := by
  rw [filterCards_eq hf] at h
  have hselects := Filter.selects_together.mp (Filter.selectCards_ok h).1
  exact fun expr hexpr =>
    (Filter.selects_iff_concerns (hf expr hexpr)).mp (List.forall_mem_map.mp hselects expr hexpr)

/-- Expressions together select cards when each is about cards, and then the cards that each selects
alone, in the order of their rows. Neither the order of the expressions nor repetitions matter. -/
structure SelectsAll (db : Database) (exprs : List String) : Prop where
  succeeds_iff : (∃ ids, db.filterCards exprs = .ok ids) ↔ ∀ expr ∈ exprs, Concerns expr .card
  selects : ∀ ids, db.filterCards exprs = .ok ids → ∃ alone : String → List CardId,
    (∀ expr ∈ exprs, db.filterCards [expr] = .ok (alone expr)) ∧
      ids = (db.cards.map (·.id)).filter fun id => exprs.all fun expr => (alone expr).contains id
  ascends : (db.cards.map (·.id)).Pairwise (·.val < ·.val) →
    ∀ ids, db.filterCards exprs = .ok ids → ids.Pairwise (·.val < ·.val)
  same : ∀ exprs' : List String, (∀ expr, expr ∈ exprs' ↔ expr ∈ exprs) →
    ∀ ids, db.filterCards exprs = .ok ids → db.filterCards exprs' = .ok ids

/-- What expressions select together, in any database, when none of their patterns is too large; what no
expression selects; and that the vocabulary tells the tables of every filter. -/
theorem filterCards_all (db : Database) :
    (∀ exprs : List String,
      (∀ expr ∈ exprs, ∃ f, db.parseFilter expr = .ok f ∧ ∀ p ∈ f.patterns, Like.fits p) →
      db.SelectsAll exprs) ∧
    db.filterCards [] = .ok (db.cards.map (·.id)) ∧
    (db.Stocked → db.Fits → (db.cards.map (·.id)).Pairwise (·.val < ·.val)) ∧
    ∀ entry ∈ vocabulary, ∀ values f, entry.build db values = .ok f →
      f.entities = entry.entities := by
  refine ⟨fun exprs hread => ?_, ?_, fun h hfits => ?_, fun entry hentry values f hf => ?_⟩
  · choose! f hf hfits using hread
    have hasked : ∀ g : Filter, (∀ p ∈ g.patterns, Like.fits p) → ∃ c, g.condition db = .ok c :=
      fun g hg => Filter.exists_condition hg db
    choose! c hc using hasked
    have hcond : ∀ expr ∈ exprs, (f expr).condition db = .ok (c (f expr)) :=
      fun expr hexpr => hc (f expr) (hfits expr hexpr)
    have hids : ∀ {ids}, db.filterCards exprs = .ok ids → ∀ {exprs'}, exprs' ⊆ exprs →
        db.filterCards exprs' = .ok ((db.cards.map (·.id)).filter fun id =>
          exprs'.all fun expr => db.satisfies (.card id) (c (f expr))) := by
      intro ids h exprs' hsub
      exact filterCards_eq_ok (fun expr hexpr => hf expr (hsub hexpr))
        (fun expr hexpr => hcond expr (hsub hexpr))
        fun expr hexpr => concerns_of_filterCards hf h expr (hsub hexpr)
    constructor
    case succeeds_iff =>
      exact ⟨fun ⟨_, h⟩ => concerns_of_filterCards hf h, fun h => ⟨_, filterCards_eq_ok hf hcond h⟩⟩
    case selects =>
      intro ids h
      refine ⟨fun expr => (db.cards.map (·.id)).filter fun id =>
        db.satisfies (.card id) (c (f expr)), fun expr hexpr => ?_, ?_⟩
      · rw [hids h (List.cons_subset.mpr ⟨hexpr, List.nil_subset _⟩)]
        simp only [List.all_cons, List.all_nil, Bool.and_true]
      · rw [Except.ok.inj (h.symm.trans (hids h (List.Subset.refl exprs)))]
        refine List.filter_congr fun id hid => ?_
        rw [Bool.eq_iff_iff]
        simp only [List.all_eq_true, List.contains_iff_mem, List.mem_filter, hid, true_and]
    case ascends =>
      intro hcards ids h
      rw [Except.ok.inj (h.symm.trans (hids h (List.Subset.refl exprs)))]
      exact hcards.filter _
    case same =>
      intro exprs' hmem ids h
      rw [h.symm.trans (hids h (List.Subset.refl exprs)), hids h fun expr hexpr => (hmem expr).mp hexpr]
      refine congrArg Except.ok (List.filter_congr fun id _ => ?_)
      rw [Bool.eq_iff_iff]
      simp only [List.all_eq_true, hmem]
  · have hnone : db.filterCards [] = .ok ((db.cards.map (·.id)).filter fun _ => true) :=
      filterCards_eq_ok (f := fun _ => .everything) (c := fun _ => .always) nofun nofun nofun
    rwa [List.filter_true] at hnone
  · exact List.pairwise_map.mpr (h.inPlace hfits).cards.inOrder.ascends
  · rw [FilterEntry.entities_build hf, (vocabulary_kinds entry hentry).1]

theorem filterCards_all_pets :
    pets.filterCards ["CardType=Ally", "!CardType=Retainer"] = .ok [⟨0⟩] ∧
    pets.filterCards ["!CardType=Retainer", "CardType=Ally", "CardType=Ally"] = .ok [⟨0⟩] ∧
    ∀ ids, pets.filterCards ["CardType=Ally", "SetsInUse"] ≠ .ok ids := by
  have hread : ∀ expr ∈ ["CardType=Ally", "!CardType=Retainer", "SetsInUse"],
      ∃ f, pets.parseFilter expr = .ok f ∧ ∀ p ∈ f.patterns, Like.fits p := by
    simp only [List.forall_mem_cons, List.not_mem_nil, false_implies, implies_true, and_true]
    exact ⟨⟨.related .cardType [0], rfl, nofun⟩, ⟨.not (.related .cardType [1]), rfl, nofun⟩,
      ⟨.inUse, rfl, nofun⟩⟩
  have hselects : ∀ exprs ⊆ ["CardType=Ally", "!CardType=Retainer", "SetsInUse"],
      pets.SelectsAll exprs :=
    fun exprs hsub => (filterCards_all pets).1 exprs fun expr hexpr => hread expr (hsub hexpr)
  have hboth : pets.filterCards ["CardType=Ally", "!CardType=Retainer"] = .ok [⟨0⟩] := by
    decide +kernel
  refine ⟨hboth, (hselects _ (by simp)).same _ (fun expr => ?_) _ hboth, fun ids h => ?_⟩
  · simp only [List.mem_cons, List.not_mem_nil, or_false]
    constructor
    · rintro (rfl | rfl | rfl) <;> simp
    · rintro (rfl | rfl) <;> simp
  · obtain ⟨e, entry, hparse, hentry, hmem⟩ :=
      (hselects _ (by simp)).succeeds_iff.mp ⟨ids, h⟩ "SetsInUse" (by simp)
    have he : e = ⟨false, "SetsInUse", []⟩ := (Except.ok.inj hparse).symm
    rw [he] at hentry
    have hprintings : entry = vocabulary[22] := (Option.some.inj hentry).symm
    rw [hprintings] at hmem
    exact absurd hmem (by decide)

/-- Two cards whose rows are stored the other way round. -/
def turned : Database :=
  { empty with cards := pets.cards.reverse }

/-- Rows are taken from a stored document as they stand there, and so are the cards that are selected. -/
theorem not_ascends_turned :
    ofJson? turned.toJson = some turned ∧ turned.filterCards [] = .ok [⟨1⟩, ⟨0⟩] ∧
      ¬ ∀ ids, turned.filterCards [] = .ok ids → ids.Pairwise (·.val < ·.val) := by
  have hall : turned.filterCards [] = .ok [⟨1⟩, ⟨0⟩] := by decide +kernel
  refine ⟨by decide +kernel, hall, fun h => ?_⟩
  exact absurd (h _ hall) (by decide)

end Database
end CardBinder
