import CardBinder.Holder.Prepare
import CardBinder.Proofs.Catalog.Valid
import CardBinder.Proofs.Filter

/-! Answers of a resolver stay within what its strategy answers about the present catalog. -/

namespace CardBinder
variable {σ : Type}

/-- The cards and expansions that may be answered. -/
structure Scope where
  card : CardId → Prop
  expansion : LookupId → Prop

namespace Scope

/-- The printings of a card that may be answered. -/
def Allows (sc : Scope) (card : CardId) (expansion : Option LookupId) : Prop :=
  sc.card card ∧ ∀ e ∈ expansion, sc.expansion e

/-- The cards and expansions of a database. -/
def known (db : Database) : Scope := ⟨db.HasCard, db.HasEntry .expansion⟩

end Scope

/-- The answers of a strategy about a database are in scope. -/
structure Strategy.Within (sc : Scope) (db : Database) (strategy : Strategy σ) : Prop where
  card : ∀ name s id, (strategy.card db name s).1 = some id → sc.card id
  expansion : ∀ name s id, (strategy.expansion db name s).1 = some id → sc.expansion id

/-- Every card and expansion that is answered is in the catalog that was asked about. -/
def Strategy.Sound (strategy : Strategy σ) : Prop :=
  ∀ db : Database, db.CatalogValid → strategy.Within (.known db) db

namespace Strategy

/-- Expansions are found by their names in every built-in strategy. -/
theorem exactExpansion_known {db : Database} (hv : db.CatalogValid) (name : String) (s : σ)
    (id : LookupId) (h : (exactExpansion db name s).1 = some id) : db.HasEntry .expansion id :=
  hv.hasEntry_findLookup h

theorem sound_exact : (exact : Strategy σ).Sound := fun _ hv =>
  ⟨fun _ _ _ h => hv.hasCard_findCard h, exactExpansion_known hv⟩

theorem guessCard_mem {db : Database} {name : String} {id : CardId}
    (h : guessCard db name = some id) : ∃ c ∈ db.cards, c.id = id := by
  rw [guessCard] at h
  split at h
  · rename_i hfound
    exact Database.findCard_mem (hfound.trans h)
  · split at h
    · rename_i only hguess
      obtain rfl := Option.some.inj h
      exact Filter.guesses_mem (hguess ▸ List.mem_singleton_self only)
    · cases h

theorem sound_bestGuess : (bestGuess : Strategy σ).Sound := by
  intro db hv
  refine ⟨?_, exactExpansion_known hv⟩
  intro name s id h
  obtain ⟨c, hc, rfl⟩ := guessCard_mem h
  exact hv.hasCard hc

/-- A prompt is sound when a guess is chosen out of those that are offered. -/
theorem sound_prompt {choose : String → List CardId → σ → Option CardId × σ}
    (h : ∀ name offered s id, (choose name offered s).1 = some id → id ∈ offered) :
    (prompt choose).Sound := by
  intro db hv
  refine ⟨?_, exactExpansion_known hv⟩
  intro name s id hid
  simp only [prompt] at hid
  split at hid
  · rename_i hfound
    exact hv.hasCard_findCard (hfound.trans hid)
  · obtain ⟨c, hc, rfl⟩ := Filter.guesses_mem (h _ _ _ _ hid)
    exact hv.hasCard hc

end Strategy

/-- The remembered answers about a database are in scope. -/
structure NameCache.Within (sc : Scope) (db : Database) (c : NameCache) : Prop where
  cards : c.generation = some db.generation → ∀ name id, (name, some id) ∈ c.cards → sc.card id
  expansions : c.generation = some db.generation →
    ∀ name id, (name, some id) ∈ c.expansions → sc.expansion id

structure Resolver.Within (sc : Scope) (db : Database) (r : Resolver σ) : Prop where
  strategy : r.strategy.Within sc db
  cache : r.cache.Within sc db

namespace NameCache
variable {sc : Scope} {db : Database} {c : NameCache}

theorem within_empty : empty.Within sc db where
  cards h := by cases h
  expansions h := by cases h

/-- Remembered answers stay in scope as long as the catalog is the same. -/
theorem Within.of_same {sc' : Scope} {db' : Database} (h : c.Within sc db)
    (hsame : Database.SameCatalog db db') (hcard : ∀ id, sc.card id → sc'.card id)
    (hexpansion : ∀ id, sc.expansion id → sc'.expansion id) : c.Within sc' db' where
  cards hgen name id hmem :=
    hcard id (h.cards (hgen.trans (congrArg some hsame.generation)) name id hmem)
  expansions hgen name id hmem :=
    hexpansion id (h.expansions (hgen.trans (congrArg some hsame.generation)) name id hmem)

theorem Within.sync (h : c.Within sc db) :
    (c.sync db).Within sc db ∧ (c.sync db).generation = some db.generation := by
  rw [NameCache.sync]
  split
  · rename_i hgen
    exact ⟨h, hgen⟩
  · exact ⟨⟨by simp, by simp⟩, rfl⟩

theorem mem_put {α : Type} {answers : List (String × α)} {name key : String} {answer a : α}
    (h : (key, a) ∈ put answers name answer) :
    key = canonicalName name ∧ a = answer ∨ (key, a) ∈ answers := by
  rcases List.mem_cons.mp h with h | h
  · exact Or.inl (Prod.mk.inj h)
  · exact Or.inr (List.mem_of_mem_filter h)

end NameCache

namespace Resolver
variable {sc : Scope} {db : Database} {r : Resolver σ}

theorem Within.card (h : r.Within sc db) (name : String) :
    (∀ id ∈ (r.card db name).1, sc.card id) ∧ (r.card db name).2.Within sc db ∧
      (r.card db name).2.strategy = r.strategy := by
  obtain ⟨hsync, hgen⟩ := h.cache.sync
  rw [Resolver.card]
  simp only
  split
  · rename_i known hknown
    refine ⟨?_, ⟨h.strategy, hsync⟩, rfl⟩
    rintro id rfl
    exact hsync.cards hgen _ id (mem_of_lookup hknown)
  · refine ⟨fun id hid => h.strategy.card name r.state id hid, ⟨h.strategy, ?_⟩, rfl⟩
    refine ⟨fun _ key id hmem => ?_, hsync.expansions⟩
    rcases NameCache.mem_put hmem with ⟨_, hid⟩ | hold
    · exact h.strategy.card name r.state id hid.symm
    · exact hsync.cards hgen key id hold

theorem Within.expansion (h : r.Within sc db) (name : String) :
    (∀ id ∈ (r.expansion db name).1, sc.expansion id) ∧ (r.expansion db name).2.Within sc db ∧
      (r.expansion db name).2.strategy = r.strategy := by
  obtain ⟨hsync, hgen⟩ := h.cache.sync
  rw [Resolver.expansion]
  simp only
  split
  · rename_i known hknown
    refine ⟨?_, ⟨h.strategy, hsync⟩, rfl⟩
    rintro id rfl
    exact hsync.expansions hgen _ id (mem_of_lookup hknown)
  · refine ⟨fun id hid => h.strategy.expansion name r.state id hid, ⟨h.strategy, ?_⟩, rfl⟩
    refine ⟨hsync.cards, fun _ key id hmem => ?_⟩
    rcases NameCache.mem_put hmem with ⟨_, hid⟩ | hold
    · exact h.strategy.expansion name r.state id hid.symm
    · exact hsync.expansions hgen key id hold

end Resolver

/-! Holders -/

namespace Holder
variable {sc : Scope} {db : Database} {r : Resolver σ}

theorem findExpansion_within (h : Holder) (hr : r.Within sc db) (card : CardId)
    (expansion : Option String) :
    (∀ e ∈ (h.findExpansion db r card expansion).1, sc.expansion e) ∧
      (h.findExpansion db r card expansion).2.2.Within sc db ∧
      (h.findExpansion db r card expansion).2.2.strategy = r.strategy := by
  unfold findExpansion
  cases expansion with
  | none => exact ⟨by simp, hr, rfl⟩
  | some name =>
    have hname := hr.expansion name
    simp only
    split
    · rename_i heq
      rw [heq] at hname
      exact hname
    · rename_i heq
      rw [heq] at hname
      exact hname

theorem findEntries_within (h : Holder) (hr : r.Within sc db)
    (entries : List (NamedPrinting × Nat)) :
    (∀ f ∈ (h.findEntries db r entries).1, sc.Allows f.card f.expansion) ∧
      (h.findEntries db r entries).2.2.Within sc db ∧
      (h.findEntries db r entries).2.2.strategy = r.strategy := by
  induction entries generalizing h r with
  | nil => exact ⟨by simp [findEntries], hr, rfl⟩
  | cons entry entries ih =>
    obtain ⟨key, count⟩ := entry
    have hcard := hr.card key.name
    rw [findEntries]
    split
    · rename_i r' heq
      rw [heq] at hcard
      obtain ⟨hfound, hw, hs⟩ := ih (h.warn (skippedText key.name count)) hcard.2.1
      exact ⟨hfound, hw, hs.trans hcard.2.2⟩
    · rename_i card r' heq
      rw [heq] at hcard
      obtain ⟨hknown, hr', hs⟩ := hcard
      obtain ⟨hexp, hr'', hs'⟩ := h.findExpansion_within hr' card key.expansion
      obtain ⟨hfound, hw, hs''⟩ := ih (h.findExpansion db r' card key.expansion).2.1 hr''
      refine ⟨?_, hw, hs''.trans (hs'.trans hs)⟩
      intro f hf
      rcases List.mem_cons.mp hf with rfl | hf
      · exact ⟨hknown card rfl, hexp⟩
      · exact hfound f hf

/-- A prepared set holds only what may be answered. -/
theorem prepare_within (h : Holder) (hr : r.Within sc db) :
    (∀ p, (h.prepare db r).1 = .ok p → ∀ f ∈ p.copies, sc.Allows f.card f.expansion) ∧
      (h.prepare db r).2.2.Within sc db ∧ (h.prepare db r).2.2.strategy = r.strategy := by
  rw [prepare]
  split
  · exact ⟨by simp, hr, rfl⟩
  · obtain ⟨hfound, hw, hs⟩ :=
      (h.findParent db).2.findEntries_within hr (h.findParent db).2.entries.entries
    refine ⟨?_, hw, hs⟩
    intro p hp
    rw [← Except.ok.inj hp]
    exact hfound

end Holder
end CardBinder
