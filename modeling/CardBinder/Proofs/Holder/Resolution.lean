import CardBinder.Proofs.Database.Sets
import CardBinder.Proofs.Holder.Staging
import CardBinder.Proofs.Resolver.Freshness

/-! What the entries of a holder stand for, and what is said about those that stand for less. -/

namespace CardBinder
variable {σ : Type}

namespace Strategy

/-- Of a name only the canonical form counts. -/
structure ByKey (strategy : Strategy σ) : Prop where
  card : ∀ db name name' s s', canonicalName name = canonicalName name' →
    (strategy.card db name s).1 = (strategy.card db name' s').1
  expansion : ∀ db name name' s s', canonicalName name = canonicalName name' →
    (strategy.expansion db name s).1 = (strategy.expansion db name' s').1

/-- What an entry stands for: a card, and an expansion when there is one of the name. -/
def find (strategy : Strategy σ) (db : Database) (s : σ) (key : NamedPrinting) :
    Option (CardId × Option LookupId) :=
  (strategy.card db key.name s).1.map fun card =>
    (card, key.expansion.bind fun name => (strategy.expansion db name s).1)

variable {strategy : Strategy σ} {db : Database} {name : String}

theorem byKey_exact : (exact : Strategy σ).ByKey where
  card db name name' _ _ h := by
    change db.findCard name = db.findCard name'
    rw [Database.findCard, Database.findCard, h]
  expansion db name name' _ _ h := congrArg (db.lookupTable .expansion).findKey h

theorem ByKey.steady (h : strategy.ByKey) (db : Database) : strategy.Steady db where
  card name s s' := h.card db name name s' s rfl
  expansion name s s' := h.expansion db name name s' s rfl

theorem ByKey.card_of_gives (h : strategy.ByKey) (s : σ) {answer : Option CardId}
    (hgives : strategy.GivesCard db (canonicalName name) answer) :
    answer = (strategy.card db name s).1 := by
  obtain ⟨name', hkey, hanswer⟩ := hgives
  rw [← hanswer s, h.card db name' name s s hkey]

theorem ByKey.expansion_of_gives (h : strategy.ByKey) (s : σ) {answer : Option LookupId}
    (hgives : strategy.GivesExpansion db (canonicalName name) answer) :
    answer = (strategy.expansion db name s).1 := by
  obtain ⟨name', hkey, hanswer⟩ := hgives
  rw [← hanswer s, h.expansion db name' name s s hkey]

end Strategy

namespace Holder

def missingParentText (name : String) : String :=
  "Parent card set '" ++ name ++ "' not found. Card set will be created without a parent"

def unknownExpansionText (name card : String) : String :=
  "Unknown expansion '" ++ name ++ "' for '" ++ card ++ "'. Adding the card without an expansion"

def missingCardsText (name : String) (found requested : Nat) : String :=
  "Card set '" ++ name ++ "' has " ++ toString found ++ " of the " ++ toString requested ++
    " requested cards"

/-- A holder with more warnings. -/
def warned (h : Holder) (warnings : List String) : Holder :=
  { h with warnings := h.warnings ++ warnings }

@[simp] theorem warned_nil (h : Holder) : h.warned [] = h := by
  simp [warned]

@[simp] theorem warned_warned (h : Holder) (first second : List String) :
    (h.warned first).warned second = h.warned (first ++ second) := by
  simp [warned]

theorem warn_eq (h : Holder) (warning : String) : h.warn warning = h.warned [warning] := rfl

/-- What is said about a parent that is named and missing. -/
def parentWarnings (h : Holder) (db : Database) : List String :=
  (h.parent.toList.filter fun name => (db.findCardSet name).isNone).map missingParentText

/-- What is said about an entry: nothing, unless its card or its expansion is not found. -/
def entryWarnings (strategy : Strategy σ) (db : Database) (s : σ) (e : NamedPrinting × Nat) :
    List String :=
  match (strategy.card db e.1.name s).1 with
  | none => [skippedText e.1.name e.2]
  | some card =>
    (e.1.expansion.toList.filter fun name => (strategy.expansion db name s).1.isNone).map
      (unknownExpansionText · (db.cardName card))

/-- The entries that stand for a card, with their counts. -/
def foundCopies (h : Holder) (strategy : Strategy σ) (db : Database) (s : σ) : List FoundCopies :=
  h.entries.entries.filterMap fun e => (strategy.find db s e.1).map fun x => ⟨x.1, x.2, e.2⟩

/-- The set that a holder is prepared as. -/
def preparedSet (h : Holder) (strategy : Strategy σ) (db : Database) (s : σ) (name : String) :
    PreparedSet :=
  ⟨h.draft name (h.parent.bind db.findCardSet), h.foundCopies strategy db s⟩

variable {db : Database} {r : Resolver σ}

theorem exists_parent (h : Holder) (db : Database) :
    ∀ x ∈ h.parent.bind db.findCardSet, ∃ cs ∈ db.cardSets, cs.id = x := by
  intro x hx
  obtain ⟨parent, _, hfind⟩ := Option.bind_eq_some_iff.mp hx
  obtain ⟨cs, hcs, hid, _⟩ := Database.findCardSet_some hfind
  exact ⟨cs, hcs, hid⟩

theorem findParent_eq (h : Holder) (db : Database) :
    h.findParent db = (h.parent.bind db.findCardSet, h.warned (h.parentWarnings db)) := by
  rw [findParent, parentWarnings]
  cases h.parent with
  | none => exact congrArg (none, ·) h.warned_nil.symm
  | some name =>
    simp only [Option.toList_some, Option.bind_some]
    cases hfind : db.findCardSet name with
    | none =>
      rw [List.filter_singleton, hfind]
      rfl
    | some id =>
      rw [List.filter_singleton, hfind]
      exact congrArg (some id, ·) h.warned_nil.symm

/-- Looking for an expansion changes nothing about a holder but its warnings. -/
theorem findExpansion_warned (h : Holder) (db : Database) (r : Resolver σ) (card : CardId)
    (expansion : Option String) :
    ∃ warnings, (h.findExpansion db r card expansion).2.1 = h.warned warnings := by
  cases expansion with
  | none => exact ⟨[], h.warned_nil.symm⟩
  | some name =>
    rw [findExpansion]
    rcases r.expansion db name with ⟨_ | id, r'⟩
    · exact ⟨_, h.warn_eq _⟩
    · exact ⟨[], h.warned_nil.symm⟩

theorem findEntries_warned (h : Holder) (db : Database) (r : Resolver σ)
    (entries : List (NamedPrinting × Nat)) :
    ∃ warnings, (h.findEntries db r entries).2.1 = h.warned warnings := by
  induction entries generalizing h r with
  | nil => exact ⟨[], h.warned_nil.symm⟩
  | cons entry entries ih =>
    obtain ⟨key, count⟩ := entry
    rw [findEntries]
    rcases r.card db key.name with ⟨_ | card, r'⟩
    · obtain ⟨warnings, hwarned⟩ := ih (h.warned [skippedText key.name count]) r'
      exact ⟨_, hwarned.trans (h.warned_warned _ _)⟩
    · obtain ⟨first, hfirst⟩ := h.findExpansion_warned db r' card key.expansion
      obtain ⟨warnings, hwarned⟩ := ih (h.findExpansion db r' card key.expansion).2.1
        (h.findExpansion db r' card key.expansion).2.2
      exact ⟨_, hwarned.trans ((congrArg (·.warned warnings) hfirst).trans (h.warned_warned _ _))⟩

theorem findExpansion_congr (h h' : Holder) (db : Database) (r : Resolver σ) (card : CardId)
    (expansion : Option String) :
    (h.findExpansion db r card expansion).1 = (h'.findExpansion db r card expansion).1 ∧
      (h.findExpansion db r card expansion).2.2 = (h'.findExpansion db r card expansion).2.2 := by
  cases expansion with
  | none => exact ⟨rfl, rfl⟩
  | some name =>
    rw [findExpansion, findExpansion]
    rcases r.expansion db name with ⟨_ | id, r'⟩ <;> exact ⟨rfl, rfl⟩

/-- What is found depends on the entries alone. -/
theorem findEntries_congr (h h' : Holder) (db : Database) (r : Resolver σ)
    (entries : List (NamedPrinting × Nat)) :
    (h.findEntries db r entries).1 = (h'.findEntries db r entries).1 := by
  induction entries generalizing h h' r with
  | nil => rfl
  | cons entry entries ih =>
    obtain ⟨key, count⟩ := entry
    rw [findEntries, findEntries]
    rcases r.card db key.name with ⟨_ | card, r'⟩
    · exact ih _ _ r'
    · obtain ⟨hfound, hresolver⟩ := findExpansion_congr h h' db r' card key.expansion
      simp only [hfound, hresolver]
      exact congrArg _ (ih _ _ _)

/-- How many copies are found for the entries of a holder. -/
def copiesFound (h : Holder) (db : Database) (r : Resolver σ) : Nat :=
  countSum ((h.findEntries db r h.entries.entries).1.map (·.count))

theorem copiesFound_congr (h h' : Holder) (he : h'.entries = h.entries) (db : Database)
    (r : Resolver σ) : h'.copiesFound db r = h.copiesFound db r := by
  rw [copiesFound, copiesFound, he, findEntries_congr h' h]

/-- Whatever is found for its entries, a holder is prepared as a set of its details. -/
theorem prepare_draft {h : Holder} {name : String} (hname : h.trimmedName? = some name)
    (db : Database) (r : Resolver σ) :
    ∃ p, (h.prepare db r).1 = .ok p ∧ p.draft = h.draft name (h.parent.bind db.findCardSet) ∧
      p.total = h.copiesFound db r := by
  rw [prepare, hname]
  simp only [findParent_eq]
  obtain ⟨warnings, hwarned⟩ := (h.warned (h.parentWarnings db)).findEntries_warned db r
    (h.warned (h.parentWarnings db)).entries.entries
  rw [hwarned]
  exact ⟨_, rfl, rfl, copiesFound_congr h (h.warned (h.parentWarnings db)) rfl db r⟩

theorem findExpansion_eq (hs : r.strategy.ByKey) (hr : r.cache.Fresh r.strategy db) (s : σ)
    (h : Holder) (card : CardId) (expansion : Option String) :
    ∃ r', h.findExpansion db r card expansion =
        (expansion.bind fun name => (r.strategy.expansion db name s).1,
          h.warned ((expansion.toList.filter fun name =>
            (r.strategy.expansion db name s).1.isNone).map
              (unknownExpansionText · (db.cardName card))), r') ∧
      r'.cache.Fresh r.strategy db ∧ r'.strategy = r.strategy := by
  cases expansion with
  | none => exact ⟨r, by simp [findExpansion], hr, rfl⟩
  | some name =>
    obtain ⟨hgives, hfresh, hstrategy⟩ := Resolver.expansion_fresh (hs.steady db) hr name
    have hanswer := hs.expansion_of_gives s hgives
    refine ⟨(r.expansion db name).2, ?_, hfresh, hstrategy⟩
    rw [findExpansion, Option.bind_some, Option.toList_some, List.filter_singleton, ← hanswer]
    rcases hask : r.expansion db name with ⟨found, r'⟩
    cases found with
    | none => rfl
    | some id => exact congrArg (some id, ·, r') h.warned_nil.symm

/-- Every entry is found, or told, as the strategy answers for its own name. -/
theorem findEntries_eq (hs : r.strategy.ByKey) (hr : r.cache.Fresh r.strategy db) (s : σ)
    (h : Holder) (entries : List (NamedPrinting × Nat)) :
    (h.findEntries db r entries).1 = entries.filterMap (fun e =>
        (r.strategy.find db s e.1).map fun x => ⟨x.1, x.2, e.2⟩) ∧
      (h.findEntries db r entries).2.1 =
        h.warned (entries.flatMap (entryWarnings r.strategy db s)) := by
  induction entries generalizing h r with
  | nil => simp [findEntries]
  | cons entry entries ih =>
    obtain ⟨key, count⟩ := entry
    obtain ⟨hgives, hfresh, hstrategy⟩ := Resolver.card_fresh (hs.steady db) hr key.name
    have hanswer := hs.card_of_gives s hgives
    rw [findEntries]
    rcases hask : r.card db key.name with ⟨found, r'⟩
    rw [hask] at hanswer hfresh hstrategy
    simp only at hanswer hfresh hstrategy
    rw [← hstrategy] at hs hfresh hanswer ⊢
    cases found with
    | none =>
      have hnone : r'.strategy.find db s key = none := by rw [Strategy.find, ← hanswer]; rfl
      have htold : entryWarnings r'.strategy db s (key, count) = [skippedText key.name count] := by
        simp only [entryWarnings, ← hanswer]
      obtain ⟨hfound, hwarned⟩ := ih hs hfresh (h.warned [skippedText key.name count])
      simp only [hfound, hwarned, hnone, htold, List.filterMap_cons, List.flatMap_cons, warn_eq,
        warned_warned, Option.map_none, and_self]
    | some card =>
      obtain ⟨r'', hexpansion, hfresh', hstrategy'⟩ :=
        findExpansion_eq hs hfresh s h card key.expansion
      rw [← hstrategy'] at hs hfresh'
      obtain ⟨hfound, hwarned⟩ := ih hs hfresh' (h.findExpansion db r' card key.expansion).2.1
      have hsome : r'.strategy.find db s key =
          some (card, key.expansion.bind fun name => (r'.strategy.expansion db name s).1) := by
        rw [Strategy.find, ← hanswer]
        rfl
      have htold : entryWarnings r'.strategy db s (key, count) =
          (key.expansion.toList.filter fun name => (r'.strategy.expansion db name s).1.isNone).map
            (unknownExpansionText · (db.cardName card)) := by
        simp only [entryWarnings, ← hanswer]
      simp only [hexpansion] at hfound hwarned ⊢
      rw [hstrategy'] at hfound hwarned
      simp only [hfound, hwarned, hsome, htold, List.filterMap_cons, List.flatMap_cons,
        warned_warned, Option.map_some, and_self]

/-! The whole of a holder -/

/-- All that is said when a holder is prepared: about its parent, about each entry, and about cards
that will be missing. -/
def prepareWarnings (h : Holder) (strategy : Strategy σ) (db : Database) (s : σ) (name : String) :
    List String :=
  h.parentWarnings db ++ h.entries.entries.flatMap (entryWarnings strategy db s) ++
    if ∀ e ∈ h.entries.entries, (strategy.find db s e.1).isSome then []
    else [missingCardsText name (h.entries.countIf fun key => (strategy.find db s key).isSome) h.size]

/-- The copies found of some cards are those of the entries that stand for these. -/
theorem countSum_foundCopies (h : Holder) (strategy : Strategy σ) (db : Database) (s : σ)
    (p : CardId × Option LookupId → Bool) :
    countSum ((h.foundCopies strategy db s).map fun f =>
        if p (f.card, f.expansion) then f.count else 0) =
      h.entries.countIf fun key => (strategy.find db s key).any p := by
  rw [foundCopies, Tally.countIf]
  generalize h.entries.entries = entries
  induction entries with
  | nil => rfl
  | cons e entries ih =>
    rw [List.map_cons, Tally.countSum_cons, ← ih, List.filterMap_cons]
    cases strategy.find db s e.1 with
    | none => simp
    | some x => rfl

theorem total_foundCopies (h : Holder) (strategy : Strategy σ) (db : Database) (s : σ) :
    countSum ((h.foundCopies strategy db s).map (·.count)) =
      h.entries.countIf fun key => (strategy.find db s key).isSome := by
  have hall := h.countSum_foundCopies strategy db s fun _ => true
  simpa only [if_true, Option.any_true] using hall

/-- Cards will be missing exactly when some entry stands for none. -/
theorem found_eq_size_iff (h : Holder) (hp : h.entries.Proper) (strategy : Strategy σ)
    (db : Database) (s : σ) :
    (h.entries.countIf fun key => (strategy.find db s key).isSome) = h.size ↔
      ∀ e ∈ h.entries.entries, (strategy.find db s e.1).isSome := by
  have hsum := h.entries.countIf_add_countIf_not fun key => (strategy.find db s key).isSome
  have hzero := hp.countIf_eq_zero_iff (p := fun key => !(strategy.find db s key).isSome)
  simp only [Bool.not_eq_false'] at hzero
  rw [← hzero, size, ← hsum]
  omega

theorem prepare_eq (hs : r.strategy.ByKey) (hr : r.cache.Fresh r.strategy db) (s : σ)
    {h : Holder} (hp : h.entries.Proper) {name : String} (hname : h.trimmedName? = some name) :
    (h.prepare db r).1 = .ok (h.preparedSet r.strategy db s name) ∧
      (h.prepare db r).2.1 = h.warned (h.prepareWarnings r.strategy db s name) := by
  obtain ⟨hfound, hwarned⟩ :=
    findEntries_eq hs hr s (h.warned (h.parentWarnings db)) h.entries.entries
  rw [prepare, hname]
  simp only [findParent_eq]
  have hentries : (h.warned (h.parentWarnings db)).entries = h.entries := rfl
  rw [hentries]
  rcases hask : (h.warned (h.parentWarnings db)).findEntries db r h.entries.entries with
    ⟨copies, h', r'⟩
  rw [hask] at hfound hwarned
  simp only at hfound hwarned ⊢
  subst hfound hwarned
  refine ⟨rfl, ?_⟩
  have htotal := h.total_foundCopies r.strategy db s
  rw [foundCopies] at htotal
  rw [warnMissing, PreparedSet.total, htotal, prepareWarnings, warned_warned]
  change (if _ = h.size then _ else _) = _
  simp only [h.found_eq_size_iff hp]
  split
  · rw [List.append_nil]
  · rw [warn_eq, warned_warned]
    rfl

end Holder
end CardBinder
