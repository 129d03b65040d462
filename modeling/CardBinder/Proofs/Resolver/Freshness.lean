import CardBinder.Proofs.Filter.Catalog
import CardBinder.Proofs.Resolver

/-! Remembered answers are what the strategy answers now, as long as the catalog is the same. -/

namespace CardBinder
variable {σ : Type}

namespace Strategy

/-- The answer for some name of the key, whatever the strategy remembers. -/
def GivesCard (strategy : Strategy σ) (db : Database) (key : String) (answer : Option CardId) :
    Prop :=
  ∃ name, canonicalName name = key ∧ ∀ s, (strategy.card db name s).1 = answer

def GivesExpansion (strategy : Strategy σ) (db : Database) (key : String)
    (answer : Option LookupId) : Prop :=
  ∃ name, canonicalName name = key ∧ ∀ s, (strategy.expansion db name s).1 = answer

/-- What a strategy remembers does not change its answers about a database. -/
structure Steady (strategy : Strategy σ) (db : Database) : Prop where
  card : ∀ name s s', (strategy.card db name s').1 = (strategy.card db name s).1
  expansion : ∀ name s s', (strategy.expansion db name s').1 = (strategy.expansion db name s).1

/-- The name and the catalog settle the answers. -/
structure Settled (strategy : Strategy σ) : Prop where
  card : ∀ {db db' : Database}, db.SameCatalog db' → ∀ name s s',
    (strategy.card db' name s').1 = (strategy.card db name s).1
  expansion : ∀ {db db' : Database}, db.SameCatalog db' → ∀ name s s',
    (strategy.expansion db' name s').1 = (strategy.expansion db name s).1

variable {strategy : Strategy σ} {db db' : Database}

theorem settled_exact : (exact : Strategy σ).Settled where
  card hsame name _ _ := hsame.findCard name
  expansion hsame name _ _ := hsame.findLookup .expansion name

theorem settled_bestGuess : (bestGuess : Strategy σ).Settled where
  card hsame name s s' := by
    change guessCard _ name = guessCard _ name
    rw [guessCard, guessCard, hsame.findCard, hsame.guesses]
  expansion hsame name _ _ := hsame.findLookup .expansion name

theorem Settled.steady (h : strategy.Settled) (db : Database) : strategy.Steady db :=
  ⟨h.card (.refl db), h.expansion (.refl db)⟩

theorem Steady.givesCard (h : strategy.Steady db) (name : String) (s : σ) :
    strategy.GivesCard db (canonicalName name) (strategy.card db name s).1 :=
  ⟨name, rfl, h.card name s⟩

theorem Steady.givesExpansion (h : strategy.Steady db) (name : String) (s : σ) :
    strategy.GivesExpansion db (canonicalName name) (strategy.expansion db name s).1 :=
  ⟨name, rfl, h.expansion name s⟩

theorem GivesCard.of_same {key : String} {answer : Option CardId}
    (hgives : strategy.GivesCard db key answer) (h : strategy.Settled)
    (hsame : db.SameCatalog db') : strategy.GivesCard db' key answer := by
  obtain ⟨name, hkey, hanswer⟩ := hgives
  exact ⟨name, hkey, fun s => (h.card hsame name s s).trans (hanswer s)⟩

theorem GivesExpansion.of_same {key : String} {answer : Option LookupId}
    (hgives : strategy.GivesExpansion db key answer) (h : strategy.Settled)
    (hsame : db.SameCatalog db') : strategy.GivesExpansion db' key answer := by
  obtain ⟨name, hkey, hanswer⟩ := hgives
  exact ⟨name, hkey, fun s => (h.expansion hsame name s s).trans (hanswer s)⟩

end Strategy

/-- One of the strategies that ask nobody. -/
def Strategy.BuiltIn (strategy : Strategy σ) : Prop :=
  ∃ mode : LookupMode, strategy = mode.strategy

namespace Strategy.BuiltIn
variable {strategy : Strategy σ} {db : Database} {name : String} {s : σ}

theorem settled (h : strategy.BuiltIn) : strategy.Settled := by
  obtain ⟨mode, rfl⟩ := h
  cases mode with
  | exact => exact settled_exact
  | bestGuess => exact settled_bestGuess

theorem card_mem (h : strategy.BuiltIn) {id : CardId}
    (hid : (strategy.card db name s).1 = some id) : ∃ c ∈ db.cards, c.id = id := by
  obtain ⟨mode, rfl⟩ := h
  cases mode with
  | exact => exact Database.findCard_mem hid
  | bestGuess => exact guessCard_mem hid

theorem expansion_eq (h : strategy.BuiltIn) :
    (strategy.expansion db name s).1 = db.findLookup .expansion name := by
  obtain ⟨mode, rfl⟩ := h
  cases mode <;> rfl

end Strategy.BuiltIn

/-- Every remembered answer, hit or miss, is what the strategy gives for a name of its key. -/
structure NameCache.Fresh (strategy : Strategy σ) (db : Database) (c : NameCache) : Prop where
  cards : c.generation = some db.generation → ∀ key answer, (key, answer) ∈ c.cards →
    strategy.GivesCard db key answer
  expansions : c.generation = some db.generation → ∀ key answer, (key, answer) ∈ c.expansions →
    strategy.GivesExpansion db key answer

namespace NameCache
variable {strategy : Strategy σ} {db db' : Database} {c : NameCache}

theorem fresh_empty : empty.Fresh strategy db where
  cards h := by cases h
  expansions h := by cases h

theorem Fresh.of_same (h : c.Fresh strategy db) (hs : strategy.Settled)
    (hsame : db.SameCatalog db') : c.Fresh strategy db' where
  cards hgen key answer hmem :=
    (h.cards (hgen.trans (congrArg some hsame.generation)) key answer hmem).of_same hs hsame
  expansions hgen key answer hmem :=
    (h.expansions (hgen.trans (congrArg some hsame.generation)) key answer hmem).of_same hs hsame

theorem generation_sync (c : NameCache) (db : Database) :
    (c.sync db).generation = some db.generation := by
  rw [sync]
  split
  · assumption
  · rfl

theorem Fresh.sync (h : c.Fresh strategy db) : (c.sync db).Fresh strategy db := by
  rw [NameCache.sync]
  split
  · exact h
  · exact ⟨by simp, by simp⟩

/-- Answers about another catalog are gone. -/
theorem sync_of_ne (h : c.generation ≠ some db.generation) :
    c.sync db = ⟨some db.generation, [], []⟩ := if_neg h

end NameCache

namespace Resolver
variable {db db' : Database} {r : Resolver σ}

/-! A card is answered as the strategy gives it for some name of the key, and this is remembered -/

theorem card_fresh (hs : r.strategy.Steady db) (h : r.cache.Fresh r.strategy db) (name : String) :
    r.strategy.GivesCard db (canonicalName name) (r.card db name).1 ∧
      (r.card db name).2.cache.Fresh r.strategy db ∧ (r.card db name).2.strategy = r.strategy := by
  have hsync := h.sync
  have hgen := NameCache.generation_sync r.cache db
  rw [Resolver.card]
  simp only
  split
  · rename_i known hknown
    exact ⟨hsync.cards hgen _ _ (mem_of_lookup hknown), hsync, rfl⟩
  · have hgives := hs.givesCard name r.state
    refine ⟨hgives, ⟨?_, hsync.expansions⟩, rfl⟩
    intro _ key answer hmem
    rcases NameCache.mem_put hmem with ⟨rfl, rfl⟩ | hold
    · exact hgives
    · exact hsync.cards hgen key answer hold

theorem expansion_fresh (hs : r.strategy.Steady db) (h : r.cache.Fresh r.strategy db)
    (name : String) :
    r.strategy.GivesExpansion db (canonicalName name) (r.expansion db name).1 ∧
      (r.expansion db name).2.cache.Fresh r.strategy db ∧
      (r.expansion db name).2.strategy = r.strategy := by
  have hsync := h.sync
  have hgen := NameCache.generation_sync r.cache db
  rw [Resolver.expansion]
  simp only
  split
  · rename_i known hknown
    exact ⟨hsync.expansions hgen _ _ (mem_of_lookup hknown), hsync, rfl⟩
  · have hgives := hs.givesExpansion name r.state
    refine ⟨hgives, ⟨hsync.cards, ?_⟩, rfl⟩
    intro _ key answer hmem
    rcases NameCache.mem_put hmem with ⟨rfl, rfl⟩ | hold
    · exact hgives
    · exact hsync.expansions hgen key answer hold

/-- A resolver with a built-in strategy whose remembered answers are fresh. -/
structure Fresh (r : Resolver σ) (db : Database) : Prop where
  strategy : r.strategy.BuiltIn
  cache : r.cache.Fresh r.strategy db

theorem Fresh.of_same (h : r.Fresh db) (hsame : db.SameCatalog db') : r.Fresh db' :=
  ⟨h.strategy, h.cache.of_same h.strategy.settled hsame⟩

theorem Fresh.invalidate (h : r.Fresh db) (db' : Database) : r.invalidate.Fresh db' :=
  ⟨h.strategy, NameCache.fresh_empty⟩

theorem fresh_setStrategy {strategy : Strategy σ} (h : strategy.BuiltIn) :
    (r.setStrategy strategy).Fresh db :=
  ⟨h, NameCache.fresh_empty⟩

theorem Fresh.card (h : r.Fresh db) (name : String) :
    r.strategy.GivesCard db (canonicalName name) (r.card db name).1 ∧
      (r.card db name).2.Fresh db := by
  obtain ⟨hgives, hcache, hs⟩ := card_fresh (h.strategy.settled.steady db) h.cache name
  exact ⟨hgives, hs ▸ h.strategy, by rw [hs]; exact hcache⟩

theorem Fresh.expansion (h : r.Fresh db) (name : String) :
    r.strategy.GivesExpansion db (canonicalName name) (r.expansion db name).1 ∧
      (r.expansion db name).2.Fresh db := by
  obtain ⟨hgives, hcache, hs⟩ := expansion_fresh (h.strategy.settled.steady db) h.cache name
  exact ⟨hgives, hs ▸ h.strategy, by rw [hs]; exact hcache⟩

/-- With answers about another catalog, the strategy is asked and only its answer is remembered. -/
theorem card_of_ne (h : r.cache.generation ≠ some db.generation) (name : String) :
    (r.card db name).1 = (r.strategy.card db name r.state).1 ∧
      (r.card db name).2.cache =
        ⟨some db.generation, [(canonicalName name, (r.strategy.card db name r.state).1)], []⟩ := by
  rw [Resolver.card, NameCache.sync_of_ne h]
  exact ⟨rfl, rfl⟩

theorem expansion_of_ne (h : r.cache.generation ≠ some db.generation) (name : String) :
    (r.expansion db name).1 = (r.strategy.expansion db name r.state).1 ∧
      (r.expansion db name).2.cache =
        ⟨some db.generation, [],
          [(canonicalName name, (r.strategy.expansion db name r.state).1)]⟩ := by
  rw [Resolver.expansion, NameCache.sync_of_ne h]
  exact ⟨rfl, rfl⟩

end Resolver

namespace Holder
variable {db : Database} {r : Resolver σ}

theorem findExpansion_fresh (h : Holder) (hr : r.Fresh db) (card : CardId)
    (expansion : Option String) : (h.findExpansion db r card expansion).2.2.Fresh db := by
  unfold findExpansion
  cases expansion with
  | none => exact hr
  | some name =>
    have hname := (hr.expansion name).2
    simp only
    split <;> (rename_i heq; rw [heq] at hname; exact hname)

theorem findEntries_fresh (h : Holder) (hr : r.Fresh db) (entries : List (NamedPrinting × Nat)) :
    (h.findEntries db r entries).2.2.Fresh db := by
  induction entries generalizing h r with
  | nil => exact hr
  | cons entry entries ih =>
    obtain ⟨key, count⟩ := entry
    have hcard := (hr.card key.name).2
    rw [findEntries]
    split <;> (rename_i heq; rw [heq] at hcard)
    · exact ih _ hcard
    · exact ih _ (findExpansion_fresh h hcard _ key.expansion)

theorem prepare_fresh (h : Holder) (hr : r.Fresh db) : (h.prepare db r).2.2.Fresh db := by
  rw [prepare]
  split
  · exact hr
  · exact findEntries_fresh _ hr _

end Holder
end CardBinder
