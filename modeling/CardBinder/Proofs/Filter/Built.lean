import CardBinder.Filter.Expression
import CardBinder.Proofs.Filter.Parts

/-! The filters that can be made: by name, by value, and by putting others together. -/

namespace CardBinder.Filter
/-- The columns of card sets. -/
def setColumns : List TextColumn := [.setName, .setAuthor, .setComment, .setAnnotations]

/-- A filter that is made by name or by value, each from any database, or put together from such. -/
inductive Built : Filter → Prop
  | everything : Built .everything
  | all {fs} : (∀ f ∈ fs, Built f) → Built (.all fs)
  | any {fs} : (∀ f ∈ fs, Built f) → Built (.any fs)
  | not {f} : Built f → Built (.not f)
  | lookup {db r names strict f} : lookup db r names strict = .ok f → Built f
  | ofNames (db r names) : Built (ofNames db r names)
  | disciplineLevels {db pairs strict f} : disciplineLevels db pairs strict = .ok f → Built f
  | expansionRarities {db pairs strict f} : expansionRarities db pairs strict = .ok f → Built f
  | groups (values) : Built (groups values)
  | capacities (values) : Built (capacities values)
  | lives (values) : Built (lives values)
  | costs (values orNone) : Built (costs values orNone)
  | costType (values orNone) : Built (.costType values orNone)
  | textContains (pattern) : Built (textContains pattern)
  | nameContains (pattern) : Built (nameContains pattern)
  | nameLike (pattern) : Built (.cardName pattern)
  | namedCards {db names strict f} : namedCards db names strict = .ok f → Built f
  | cards (ids) : Built (.cards ids)
  | printings {db expansions strict f} : printings db expansions strict = .ok f → Built f
  | contents {db names strict f} : contents db names strict = .ok f → Built f
  | countedIn {db counts names strict f} : countedIn db counts names strict = .ok f → Built f
  | inUse : Built .inUse
  | setTextContains {column} (hset : column ∈ setColumns) (pattern) :
    Built (setTextContains column pattern)
  | setInUse : Built .setInUse
  | childrenOf {db names strict f} : childrenOf db names strict = .ok f → Built f
  | playing {db roles f} : playing db roles = .ok f → Built f

/-- Whatever plays a role in a filter is told by the card alone. -/
inductive RolesOfCards : Filter → Prop
  | intro {f : Filter} (parts : ∀ part ∈ f.parts, RolesOfCards part)
    (role : ∀ composed, f = .role composed → composed.selects .card) : RolesOfCards f

variable {db : Database} {f : Filter} {fs : List Filter}

theorem RolesOfCards.leaf (h : f.parts = []) : RolesOfCards f :=
  .intro (by simp [h]) (by rintro composed rfl; cases h)

theorem RolesOfCards.made {α : Type} {x : Outcome α} {make : α → Filter}
    (hmake : ∀ a, (make a).parts = []) (h : (do return make (← x)) = .ok f) : RolesOfCards f := by
  obtain ⟨a, _, h⟩ := Outcome.bind_ok h
  obtain rfl := Except.ok.inj h
  exact .leaf (hmake a)

theorem RolesOfCards.any (h : ∀ f ∈ fs, RolesOfCards f) : RolesOfCards (.any fs) :=
  .intro h (by simp)

theorem RolesOfCards.all (h : ∀ f ∈ fs, RolesOfCards f) : RolesOfCards (.all fs) :=
  .intro h (by simp)

theorem phrases_cases {role : CardRole} (h : f ∈ role.phrases) :
    (∃ s, f = textContains s) ∨ ∃ ss, f = CardRole.anyPhrase ss := by
  cases role <;> simp_all [CardRole.phrases]
  all_goals grind

/-- A role is told by a card type and by phrases of the text. -/
theorem ofCards_role {role : CardRole} (h : role.filter db = .ok f) :
    f.selects .card ∧ RolesOfCards f := by
  obtain ⟨type, htype, h⟩ := Outcome.bind_ok h
  obtain rfl := Except.ok.inj h
  have hphrases : ∀ g ∈ role.phrases, g.selects .card ∧ RolesOfCards g := by
    intro g hg
    rcases phrases_cases hg with ⟨s, rfl⟩ | ⟨ss, rfl⟩
    · exact ⟨rfl, .leaf rfl⟩
    · constructor
      · exact selectsAll_iff.mpr (by simp [textContains, selects, Entity.withCard])
      · refine .any fun f hf => ?_
        obtain ⟨s, _, rfl⟩ := List.mem_map.mp hf
        exact .leaf rfl
  have hofType : type.selects .card ∧ RolesOfCards type := by
    obtain ⟨ts, _, h⟩ := Outcome.bind_ok htype
    obtain rfl := Except.ok.inj h
    exact ⟨rfl, .leaf rfl⟩
  have hall : ∀ g ∈ type :: role.phrases, g.selects .card ∧ RolesOfCards g :=
    List.forall_mem_cons.mpr ⟨hofType, hphrases⟩
  exact ⟨selectsAll_iff.mpr fun g hg => (hall g hg).1, .all fun g hg => (hall g hg).2⟩

theorem rolesOfCards_playing {roles : List CardRole} (h : playing db roles = .ok f) :
    RolesOfCards f := by
  obtain ⟨fs, hfs, h⟩ := Outcome.bind_ok h
  obtain rfl := Except.ok.inj h
  have hall : ∀ f ∈ fs, f.selects .card ∧ RolesOfCards f := by
    intro f hf
    obtain ⟨role, _, hrole⟩ := Outcome.mem_of_mapM hfs f hf
    exact ofCards_role hrole
  refine .intro ?_ ?_
  · intro part hpart
    obtain rfl := List.mem_singleton.mp hpart
    exact .any fun f hf => (hall f hf).2
  · intro composed heq
    obtain rfl := Filter.role.inj heq
    exact selectsAll_iff.mpr fun f hf => (hall f hf).1

theorem Built.rolesOfCards (h : f.Built) : f.RolesOfCards := by
  induction h with
  | all _ ih => exact .all ih
  | any _ ih => exact .any ih
  | not _ ih => exact .intro (by simpa [parts] using ih) (by simp)
  | lookup h => exact .made (fun _ => rfl) h
  | ofNames db r names =>
    rw [Filter.ofNames]
    split
    · rename_i h
      exact .made (fun _ => rfl) h
    · exact .leaf rfl
  | disciplineLevels h => exact .made (fun _ => rfl) h
  | expansionRarities h => exact .made (fun _ => rfl) h
  | namedCards h => exact .made (fun _ => rfl) h
  | printings h => exact .made (fun _ => rfl) h
  | contents h => exact .made (fun _ => rfl) h
  | countedIn h => exact .made (fun _ => rfl) h
  | childrenOf h => exact .made (fun _ => rfl) h
  | playing h => exact rolesOfCards_playing h
  | _ => exact .leaf rfl

/-! Filters that people name -/

/-- Whatever values are named, a keyword makes such a filter. -/
theorem built_of_build {entry : FilterEntry} {values : List String}
    (h : entry.build db values = .ok f) : f.Built := by
  rw [FilterEntry.build] at h
  cases hkind : entry.kind <;> rw [hkind] at h
  case cardType | clan | discipline | creed | virtue | sect | title | artist | keyword =>
    exact .lookup h
  case cardText => exact Except.ok.inj h ▸ .textContains _
  case cardName => exact Except.ok.inj h ▸ .nameContains _
  case setName | setAuthor | setComment | setAnnotations =>
    exact Except.ok.inj h ▸ .setTextContains (by simp [setColumns]) _
  case inUse => exact Except.ok.inj h ▸ .inUse
  case setInUse => exact Except.ok.inj h ▸ .setInUse
  case printingExpansion => exact .printings h
  case inSets => exact .contents h
  case parentSet => exact .childrenOf h
  all_goals obtain ⟨read, _, h⟩ := Outcome.bind_ok h
  case costType => exact Except.ok.inj h ▸ .costType _ _
  case group => exact Except.ok.inj h ▸ .groups _
  case capacity => exact Except.ok.inj h ▸ .capacities _
  case cost => exact Except.ok.inj h ▸ .costs _ _
  case life => exact Except.ok.inj h ▸ .lives _
  case expansionRarity => exact .expansionRarities h
  case disciplineLevel => exact .disciplineLevels h
  case cardCount => exact .countedIn h
  case role => exact .playing h

theorem built_of_parseFilter {s : String} (h : db.parseFilter s = .ok f) : f.Built := by
  obtain ⟨expression, _, h⟩ := Outcome.bind_ok h
  obtain ⟨g, hg, h⟩ := Outcome.bind_ok h
  have hbuilt : g.Built := by
    rw [buildFilter] at hg
    split at hg
    · cases hg
    · exact built_of_build hg
  obtain rfl := Except.ok.inj h
  split
  · exact .not hbuilt
  · exact hbuilt

/-- The filter of any expressions is made by name, by value or out of others. -/
theorem built_of_combinedFilter {exprs : List String} (h : db.combinedFilter exprs = .ok f) :
    f.Built := by
  obtain ⟨fs, hfs, h⟩ := Outcome.bind_ok h
  have hbuilt : ∀ g ∈ fs, g.Built := by
    intro g hg
    obtain ⟨s, _, hs⟩ := Outcome.mem_of_mapM hfs g hg
    exact built_of_parseFilter hs
  split at h
  · obtain rfl := Except.ok.inj h
    exact hbuilt _ List.mem_cons_self
  · obtain rfl := Except.ok.inj h
    exact .all hbuilt

end CardBinder.Filter
