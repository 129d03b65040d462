import CardBinder.Proofs.Filter.Spelling
import CardBinder.Proofs.Filter.Values

/-! What an expression with several values selects. -/

namespace CardBinder

namespace FilterExpression
variable {keyword : String} {values : List String} {e : FilterEntry} {v : String}

/-- The expression for a keyword and values. -/
def write (keyword : String) (values : List String) : String :=
  keyword ++ "=" ++ Text.join "|" values

theorem IsValue.bare (h : IsValue v) : Text.Bare v.toList :=
  Text.bare_of_trim (by simpa [Text.trim] using congrArg String.toList h.trimmed)
    (by simpa using h.nonempty)

theorem bare_join (sep : String) (hne : values ≠ []) (h : ∀ v ∈ values, IsValue v) :
    Text.Bare (Text.join sep values).toList := by
  induction values with
  | nil => exact absurd rfl hne
  | cons v rest ih =>
    obtain ⟨hv, hrest⟩ := List.forall_mem_cons.mp h
    cases rest with
    | nil => rw [Text.join, String.intercalate_singleton]; exact hv.bare
    | cons w rest =>
      rw [Text.join, String.intercalate_cons_cons, String.toList_append, String.toList_append]
      exact hv.bare.append (ih (List.cons_ne_nil _ _) hrest) _

/-- Values with spaces between them are one value. -/
theorem isValue_join (hne : values ≠ []) (h : ∀ v ∈ values, IsValue v) :
    IsValue (Text.join " " values) where
  trimmed := by rw [Text.trim, (bare_join " " hne h).trim, String.ofList_toList]
  nonempty := by simpa using (bare_join " " hne h).nonempty
  unbarred := by
    induction values with
    | nil => exact absurd rfl hne
    | cons v rest ih =>
      obtain ⟨hv, hrest⟩ := List.forall_mem_cons.mp h
      cases rest with
      | nil => rw [Text.join, String.intercalate_singleton]; exact hv.unbarred
      | cons w rest =>
        have hlater := ih (List.cons_ne_nil _ _) hrest
        rw [Text.join] at hlater ⊢
        simp only [String.intercalate_cons_cons, String.toList_append, List.mem_append, not_or]
        exact ⟨⟨hv.unbarred, by decide⟩, hlater⟩

theorem spells_write : Spells ⟨false, keyword, values⟩ (write keyword values) := by
  refine .values (.refl keyword) (List.forall₂_same.mpr fun v _ => .refl v) ?_
  rw [mark, if_neg Bool.false_ne_true, String.empty_append]
  exact .refl _

theorem parseFilter_write (he : filterEntry? keyword = some e) (h : ∀ v ∈ values, IsValue v)
    (db : Database) : db.parseFilter (write keyword values) = e.build db values := by
  rw [Database.parseFilter, parse_spelled (e := ⟨false, keyword, values⟩) he h spells_write]
  refine (filter_eq (e := ⟨false, keyword, values⟩) he h db).trans ?_
  cases e.build db values <;> rfl

end FilterExpression

/-! Several values -/

/-- The rows of a table that an expression selects. -/
def Database.selectedBy (db : Database) (expr : String) (entity : Entity) : Outcome (List Row) := do
  (← db.parseFilter expr).select db entity

/-- An expression selects the rows that one of its values selects alone. -/
def Database.SelectsAny (db : Database) (keyword : String) (values : List String)
    (entity : Entity) : Prop :=
  ∃ selected : String → List Row,
    (∀ v ∈ values, db.selectedBy (FilterExpression.write keyword [v]) entity = .ok (selected v)) ∧
    db.selectedBy (FilterExpression.write keyword values) entity =
      .ok ((db.rows entity).filter fun row => values.any fun v => (selected v).contains row)

theorem Database.selectedBy_eq_ok {db : Database} {expr : String} {f : Filter} {c : Condition}
    {entity : Entity} (hf : db.parseFilter expr = .ok f) (hc : f.condition db = .ok c)
    (he : f.selects entity) : db.selectedBy expr entity = .ok (db.select entity c) := by
  rw [selectedBy, hf]
  exact Filter.select_eq_ok hc he

namespace FilterEntry
open FilterExpression
variable {db : Database} {e : FilterEntry} {keyword : String} {values : List String}

/-- A text filter takes all its values as one. -/
theorem build_text {make : String → Filter} (ht : e.kind.ofText? = some make)
    (values : List String) : e.build db values = .ok (make (Text.join " " values)) := by
  rw [build]
  cases hk : e.kind <;> simp_all [FilterKind.ofText?] <;> rfl

/-- A list filter selects what it selects for one of its values. -/
theorem Unites.selectsAny (h : e.Unites db) (he : filterEntry? keyword = some e)
    (hvalues : ∀ v ∈ values, IsValue v) {f : Filter} (hf : e.build db values = .ok f)
    (hone : ∀ v ∈ values, ∃ g, e.build db [v] = .ok g) {entity : Entity}
    (hentity : entity ∈ e.kind.entities) : db.SelectsAny keyword values entity := by
  have hselects : ∀ {values f}, e.build db values = .ok f → f.selects entity := by
    intro values f hf
    rwa [← Filter.mem_entities, h.entities values f hf]
  have hasked : ∀ v ∈ values, ∃ g d, e.build db [v] = .ok g ∧ g.condition db = .ok d := by
    intro v hv
    obtain ⟨g, hg⟩ := hone v hv
    obtain ⟨d, hd, _⟩ := h.condition [v] g hg
    exact ⟨g, d, hg, hd⟩
  choose! g d hg hd using hasked
  refine ⟨fun v => db.select entity (d v), fun v hv => ?_, ?_⟩
  · have hparse := parseFilter_write he
      (List.forall_mem_singleton.mpr (hvalues v hv)) db
    exact Database.selectedBy_eq_ok (hparse.trans (hg v hv)) (hd v hv) (hselects (hg v hv))
  · obtain ⟨c, hc, hunion⟩ := h.condition values f hf
    rw [Database.selectedBy_eq_ok ((parseFilter_write he hvalues db).trans hf) hc (hselects hf)]
    refine congrArg Except.ok (List.filter_congr fun row hrow => ?_)
    rw [Bool.eq_iff_iff, hunion, List.any_eq_true]
    refine exists_congr fun v => and_congr_right fun hv => ?_
    simp only [List.contains_iff_mem, Database.select, List.mem_filter]
    constructor
    · rintro ⟨g', d', hg', hd', hsat⟩
      obtain rfl := Except.ok.inj ((hg v hv).symm.trans hg')
      obtain rfl := Except.ok.inj ((hd v hv).symm.trans hd')
      exact ⟨hrow, hsat⟩
    · exact fun hsat => ⟨g v, d v, hg v hv, hd v hv, hsat.2⟩

end FilterEntry

open FilterExpression in
/-- Several values of a list select what one of them selects; several texts are one text with spaces
between them. -/
theorem Database.parseFilter_values {db : Database} {e : FilterEntry} {keyword : String}
    {values : List String} (he : filterEntry? keyword = some e) (hflag : e.input ≠ .flag)
    (hcount : e.kind ≠ .cardCount) (hne : values ≠ []) (hvalues : ∀ v ∈ values, IsValue v)
    (hone : ∀ v ∈ values, ∃ f, db.parseFilter (write keyword [v]) = .ok f) :
    ∃ f, db.parseFilter (write keyword values) = .ok f ∧ f.entities = e.entities ∧
      if e.input = .text then db.parseFilter (write keyword [Text.join " " values]) = .ok f
      else ∀ entity ∈ e.entities, db.SelectsAny keyword values entity := by
  obtain ⟨hentities, hinput⟩ := vocabulary_kinds e (mem_vocabulary he).1
  have hparse : ∀ {values : List String}, (∀ v ∈ values, IsValue v) →
      db.parseFilter (write keyword values) = e.build db values :=
    fun hvalues => parseFilter_write he hvalues db
  rw [hinput] at hflag
  simp only [hentities, hinput]
  cases hkind : e.kind.input with
  | flag => exact absurd hkind hflag
  | text =>
    obtain ⟨make, hmake, htables⟩ := FilterKind.exists_ofText hkind
    have hspaced := List.forall_mem_singleton.mpr (isValue_join hne hvalues)
    refine ⟨_, (hparse hvalues).trans (FilterEntry.build_text hmake values), htables _, ?_⟩
    rw [if_pos rfl, hparse hspaced, FilterEntry.build_text hmake, Text.join,
      String.intercalate_singleton]
  | list | withList =>
    obtain ⟨α, read, make, marks, hreads⟩ := FilterEntry.exists_reads (by simp [hkind]) hcount db
    have hunites := hreads.unites
    have hbuilt : ∀ v ∈ values, ∃ f, e.build db [v] = .ok f := by
      intro v hv
      rw [← hparse (List.forall_mem_singleton.mpr (hvalues v hv))]
      exact hone v hv
    obtain ⟨f, hf⟩ := hunites.accepts values hbuilt
    exact ⟨f, (hparse hvalues).trans hf, hunites.entities values f hf, fun entity hentity =>
      hunites.selectsAny he hvalues hf hbuilt hentity⟩

namespace Database
open FilterExpression

theorem parseFilter_values_pets : pets.SelectsAny "cardtype" ["Ally", "Retainer"] .card ∧
    pets.selectedBy "cardtype=Ally" .card = .ok [.card ⟨0⟩] ∧
    pets.selectedBy "cardtype=Ally|Retainer" .card = .ok [.card ⟨0⟩, .card ⟨1⟩] := by
  have hone : ∀ v ∈ ["Ally", "Retainer"], ∃ f, pets.parseFilter (write "cardtype" [v]) = .ok f := by
    simp only [List.forall_mem_cons, List.not_mem_nil, false_implies, implies_true, and_true]
    exact ⟨⟨.related .cardType [0], rfl⟩, ⟨.related .cardType [1], rfl⟩⟩
  have hkeyword : filterEntry? "cardtype" = some vocabulary[0] := rfl
  obtain ⟨f, _, _, hunion⟩ := parseFilter_values hkeyword (by decide) (by decide)
    (List.cons_ne_nil _ _) (by decide) hone
  rw [if_neg (by decide)] at hunion
  exact ⟨hunion .card (by decide), by decide +kernel, by decide +kernel⟩

theorem selectedBy_cardName {expr : String} (pattern : String)
    (hexpr : pets.parseFilter expr = .ok (.cardName pattern))
    (hascii : pattern.toList.all (·.toNat < 128)) (hlength : pattern.toList.length ≤ 10000) :
    pets.selectedBy expr .card = .ok (pets.select .card (.like .cardName pattern)) := by
  refine selectedBy_eq_ok hexpr ?_ rfl
  rw [Filter.condition, Like.checked, if_pos (Like.fits_of_ascii hascii hlength)]
  rfl

/-- Each of two names is found, and nothing is when both are given. -/
theorem not_selectsAny_pets : IsValue "Dog" ∧ IsValue "Cat" ∧
    pets.selectedBy "CardName=Dog" .card = .ok [.card ⟨0⟩] ∧
    pets.selectedBy "CardName=Cat" .card = .ok [.card ⟨1⟩] ∧
    pets.selectedBy "CardName=Dog|Cat" .card = .ok [] ∧
    ¬ pets.SelectsAny "CardName" ["Dog", "Cat"] .card := by
  have hdog : pets.selectedBy "CardName=Dog" .card = .ok [.card ⟨0⟩] :=
    (selectedBy_cardName "%dog%" rfl (by decide) (by decide)).trans (by decide +kernel)
  have hcat : pets.selectedBy "CardName=Cat" .card = .ok [.card ⟨1⟩] :=
    (selectedBy_cardName "%cat%" rfl (by decide) (by decide)).trans (by decide +kernel)
  have hboth : pets.selectedBy "CardName=Dog|Cat" .card = .ok [] :=
    (selectedBy_cardName "%dog cat%" rfl (by decide) (by decide)).trans
      (by decide +kernel)
  refine ⟨by decide, by decide, hdog, hcat, hboth, ?_⟩
  rintro ⟨selected, hsingle, hunion⟩
  have hfirst : selected "Dog" = [.card ⟨0⟩] :=
    Except.ok.inj ((hsingle "Dog" (by decide)).symm.trans hdog)
  have hnone := Except.ok.inj (hunion.symm.trans hboth)
  have hrow : Row.card ⟨0⟩ ∈ pets.rows .card := by decide +kernel
  refine List.not_mem_nil (a := Row.card ⟨0⟩) (hnone ▸ List.mem_filter.mpr ⟨hrow, ?_⟩)
  rw [List.any_cons, hfirst]
  rfl

end Database
end CardBinder
