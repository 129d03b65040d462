import CardBinder.Filter.Basic
import CardBinder.Proofs.Outcome
import Mathlib.Tactic.Choose

/-! The filters that a filter is put together from, and what they decide about the whole. -/

namespace CardBinder.Filter
variable {db : Database} {f part : Filter} {fs : List Filter} {cs : List Condition} {e : Entity}

/-- The filters that a filter is directly put together from. -/
def parts : Filter → List Filter
  | .all parts => parts
  | .any parts => parts
  | .not part => [part]
  | .role composed => [composed]
  | _ => []

mutual

/-- The filters combined in a filter; one that plays a role counts as a whole. -/
def leaves : Filter → List Filter
  | .all parts => leavesAll parts
  | .any parts => leavesAll parts
  | .not part => leaves part
  | f => [f]

def leavesAll : List Filter → List Filter
  | [] => []
  | f :: fs => leaves f ++ leavesAll fs

end

mutual

/-- The patterns that texts are held against. -/
def patterns : Filter → List String
  | .all parts => patternsAll parts
  | .any parts => patternsAll parts
  | .not part => patterns part
  | .role composed => patterns composed
  | .cardText needle => [Like.anywhere needle]
  | .cardName pattern => [pattern]
  | .setText _ needle => [Like.anywhere needle]
  | _ => []

def patternsAll : List Filter → List String
  | [] => []
  | f :: fs => patterns f ++ patternsAll fs

end

theorem sizeOf_lt_of_mem_parts (h : part ∈ f.parts) : sizeOf part < sizeOf f := by
  cases f with
  | all fs => exact Nat.lt_trans (List.sizeOf_lt_of_mem h) (by simp [parts])
  | any fs => exact Nat.lt_trans (List.sizeOf_lt_of_mem h) (by simp [parts])
  | not part => simp_all [parts]
  | role composed => simp_all [parts]
  | _ => cases h

/-- What a filter inherits from the filters it is put together from holds of every filter. -/
@[elab_as_elim]
theorem induction_parts {motive : Filter → Prop} (f : Filter)
    (step : ∀ f : Filter, (∀ part ∈ f.parts, motive part) → motive f) : motive f :=
  step f fun part _ => induction_parts part step
termination_by sizeOf f
decreasing_by exact sizeOf_lt_of_mem_parts ‹_›

/-! Lists of filters -/

theorem selectsAll_iff : selectsAll e fs ↔ ∀ f ∈ fs, f.selects e := by
  induction fs with
  | nil => simp [selectsAll]
  | cons f fs ih => simp [selectsAll, ih]

theorem leavesAll_eq : leavesAll fs = fs.flatMap leaves := by
  induction fs with
  | nil => rfl
  | cons f fs ih => rw [leavesAll, ih, List.flatMap_cons]

theorem patternsAll_eq : patternsAll fs = fs.flatMap patterns := by
  induction fs with
  | nil => rfl
  | cons f fs ih => rw [patternsAll, ih, List.flatMap_cons]

theorem conditions_eq_ok {c : Filter → Condition} (h : ∀ f ∈ fs, f.condition db = .ok (c f)) :
    conditions db fs = .ok (fs.map c) := by
  induction fs with
  | nil => rfl
  | cons f fs ih =>
    obtain ⟨hfirst, hothers⟩ := List.forall_mem_cons.mp h
    rw [conditions, hfirst, ih hothers]
    rfl

theorem conditions_ok (h : conditions db fs = .ok cs) :
    ∃ c : Filter → Condition, (∀ f ∈ fs, f.condition db = .ok (c f)) ∧ cs = fs.map c := by
  have heach : ∀ f ∈ fs, ∃ c, f.condition db = .ok c := by
    induction fs generalizing cs with
    | nil => simp
    | cons f fs ih =>
      rw [conditions] at h
      obtain ⟨first, hfirst, h⟩ := Outcome.bind_ok h
      obtain ⟨others, hothers, _⟩ := Outcome.bind_ok h
      exact List.forall_mem_cons.mpr ⟨⟨first, hfirst⟩, ih hothers⟩
  choose! c hc using heach
  exact ⟨c, hc, Except.ok.inj (h.symm.trans (conditions_eq_ok hc))⟩

/-! The whole -/

theorem mem_entities : e ∈ f.entities ↔ f.selects e := by
  rw [entities, List.mem_filter]
  exact and_iff_right (by cases e <;> decide)

/-- A filter can select from the tables that all its leaves can select from. -/
theorem selects_iff : f.selects e ↔ ∀ leaf ∈ f.leaves, leaf.selects e := by
  induction f using induction_parts with
  | step f ih =>
    cases f with
    | all fs =>
      simp only [selects, selectsAll_iff, leaves, leavesAll_eq, List.forall_mem_flatMap]
      exact forall₂_congr fun part hpart => ih part hpart
    | any fs =>
      simp only [selects, selectsAll_iff, leaves, leavesAll_eq, List.forall_mem_flatMap]
      exact forall₂_congr fun part hpart => ih part hpart
    | not part => exact ih part List.mem_cons_self
    | _ => simp [leaves]

theorem patterns_subset (h : part ∈ f.parts) : part.patterns ⊆ f.patterns := by
  intro p hp
  cases f with
  | all fs =>
    rw [patterns, patternsAll_eq]
    exact List.mem_flatMap.mpr ⟨part, h, hp⟩
  | any fs =>
    rw [patterns, patternsAll_eq]
    exact List.mem_flatMap.mpr ⟨part, h, hp⟩
  | not part => simp_all [parts, patterns]
  | role composed => simp_all [parts, patterns]
  | _ => cases h

/-- A filter asks something of the rows as soon as its patterns are not too large. -/
theorem exists_condition (h : ∀ p ∈ f.patterns, Like.fits p) (db : Database) :
    ∃ c, f.condition db = .ok c := by
  induction f using induction_parts with
  | step f ih =>
    have hparts : ∀ part ∈ f.parts, ∃ c, part.condition db = .ok c := fun part hpart =>
      ih part hpart fun p hp => h p (patterns_subset hpart hp)
    have hchecked : ∀ p ∈ f.patterns, Like.checked p = .ok p := fun p hp => if_pos (h p hp)
    obtain ⟨cs, hcs⟩ : ∃ cs, conditions db f.parts = .ok cs := by
      choose! c hc using hparts
      exact ⟨f.parts.map c, conditions_eq_ok hc⟩
    cases f with
    | all fs => exact ⟨.all cs, Outcome.map_of_ok hcs⟩
    | any fs => exact ⟨.any cs, Outcome.map_of_ok hcs⟩
    | not part =>
      obtain ⟨c, hc⟩ := hparts part List.mem_cons_self
      exact ⟨.not c, Outcome.map_of_ok hc⟩
    | role composed => exact hparts composed List.mem_cons_self
    | cardText needle => exact ⟨_, Outcome.map_of_ok (hchecked _ List.mem_cons_self)⟩
    | cardName pattern => exact ⟨_, Outcome.map_of_ok (hchecked _ List.mem_cons_self)⟩
    | setText column needle => exact ⟨_, Outcome.map_of_ok (hchecked _ List.mem_cons_self)⟩
    | _ => exact ⟨_, rfl⟩

/-- A pattern that is too large is refused. -/
theorem answers_condition (f : Filter) (db : Database) : Outcome.Answers (f.condition db) := by
  have hchecked : ∀ p, Outcome.Answers (Like.checked p) := by
    intro p
    rw [Like.checked]
    split <;> simp
  induction f using induction_parts with
  | step f ih =>
    have hparts : ∀ {fs : List Filter}, (∀ part ∈ fs, Outcome.Answers (part.condition db)) →
        Outcome.Answers (conditions db fs) := by
      intro fs
      induction fs with
      | nil => exact fun _ => Outcome.answers_ok []
      | cons part fs ih =>
        intro h
        obtain ⟨hpart, hrest⟩ := List.forall_mem_cons.mp h
        exact hpart.bind fun _ _ => (ih hrest).bind fun _ _ => Outcome.answers_ok _
    cases f with
    | all fs => exact (hparts ih).map _
    | any fs => exact (hparts ih).map _
    | not part => exact (ih part List.mem_cons_self).map _
    | role composed => exact ih composed List.mem_cons_self
    | cardText needle => exact (hchecked _).map _
    | cardName pattern => exact (hchecked _).map _
    | setText column needle => exact (hchecked _).map _
    | _ => exact Outcome.answers_ok _

end CardBinder.Filter
