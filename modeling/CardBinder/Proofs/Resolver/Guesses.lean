import CardBinder.Proofs.Resolver.Freshness
import CardBinder.Proofs.Resolver.Keys

/-! Remembered guesses. Answers are remembered under the keys of names, so a remembered guess is the one
for the name at hand as long as the keys of all the names decide their guesses. -/

namespace CardBinder
open Text
variable {σ : Type} {db db' : Database} {name : String} {r r' : Resolver σ}

theorem Strategy.guessCard_same (h : db.SameCatalog db') (name : String) :
    guessCard db' name = guessCard db name := by
  rw [guessCard, guessCard, h.findCard, h.guesses]

namespace Resolver

/-- Names that were looked up one after the other, while the catalog stayed as it was. -/
inductive Lookups (P : String → Prop) (db : Database) (r : Resolver σ) : Resolver σ → Prop
  | start : Lookups P db r r
  | card {r' : Resolver σ} {db' : Database} {name : String} (h : Lookups P db r r')
      (hsame : db.SameCatalog db') (hname : P name) : Lookups P db r (r'.card db' name).2
  | expansion {r' : Resolver σ} {db' : Database} (h : Lookups P db r r')
      (hsame : db.SameCatalog db') (name : String) : Lookups P db r (r'.expansion db' name).2

theorem card_guessed (hr : r.strategy = .bestGuess) (h : r.cache.generation ≠ some db.generation)
    (name : String) : (r.card db name).1 = Strategy.guessCard db name := by
  rw [(card_of_ne h name).1, hr]
  rfl

theorem card_remembered (r : Resolver σ) (db : Database) (name : String) :
    (r.card db name).2.cache.generation = some db.generation ∧
      (r.card db name).2.cache.card? name = some (r.card db name).1 := by
  have hgen := NameCache.generation_sync r.cache db
  rw [Resolver.card]
  cases hknown : (r.cache.sync db).card? name with
  | some known => exact ⟨hgen, hknown⟩
  | none => exact ⟨hgen, List.lookup_cons_self⟩

theorem card_of_remembered (hgen : r.cache.generation = some db.generation) {answer : Option CardId}
    (h : r.cache.card? name = some answer) : (r.card db name).1 = answer := by
  have hsync : r.cache.sync db = r.cache := if_pos hgen
  rw [Resolver.card, hsync, h]

/-- A name is answered as another one of its key was before. -/
theorem card_card_of_key {other : String} (hkey : canonicalName other = canonicalName name) :
    ((r.card db name).2.card db other).1 = (r.card db name).1 := by
  obtain ⟨hgen, hknown⟩ := card_remembered r db name
  refine card_of_remembered hgen ?_
  rw [NameCache.card?, hkey]
  exact hknown

/-- The resolver guesses, and what it remembers under a key is guessed for the names of the key without
blanks around them. -/
structure Guesses (db : Database) (r : Resolver σ) : Prop where
  strategy : r.strategy = .bestGuess
  cards : r.cache.generation = some db.generation → ∀ key answer, (key, answer) ∈ r.cache.cards →
    ∀ name, canonicalName name = key → answer = Strategy.guessCard db (trim name)

theorem guesses_of_ne (hr : r.strategy = .bestGuess)
    (h : r.cache.generation ≠ some db.generation) : r.Guesses db :=
  ⟨hr, fun hgen => absurd hgen h⟩

theorem Guesses.mem_sync (h : r.Guesses db) (hsame : db.SameCatalog db') {key : String}
    {answer : Option CardId} (hmem : (key, answer) ∈ (r.cache.sync db').cards) :
    ∀ name, canonicalName name = key → answer = Strategy.guessCard db (trim name) := by
  rw [NameCache.sync] at hmem
  split at hmem
  · rename_i hgen
    exact h.cards (hgen.trans (congrArg some hsame.generation)) key answer hmem
  · cases hmem

/-- Under its key the guess for the name is remembered, whichever of the names of the key was looked
up first. -/
theorem Guesses.card (h : r.Guesses db) (hsame : db.SameCatalog db')
    (hname : Strategy.KeyDecides name) : (r.card db' name).1 = Strategy.guessCard db name ∧
      (r.card db' name).2.Guesses db := by
  rw [Resolver.card]
  cases hknown : (r.cache.sync db').card? name with
  | some known =>
    have hanswer := h.mem_sync hsame (mem_of_lookup hknown) name rfl
    exact ⟨hanswer.trans (hname db).symm, h.strategy, fun _ _ _ hmem => h.mem_sync hsame hmem⟩
  | none =>
    have hguess : (r.strategy.card db' name r.state).1 = Strategy.guessCard db name := by
      rw [h.strategy]
      exact Strategy.guessCard_same hsame name
    refine ⟨hguess, h.strategy, fun _ key answer hmem other hkey => ?_⟩
    rcases NameCache.mem_put hmem with ⟨rfl, rfl⟩ | hold
    · rw [hguess, hname db, Strategy.guessCard_trim_of_key hkey]
    · exact h.mem_sync hsame hold other hkey

theorem Guesses.expansion (h : r.Guesses db) (hsame : db.SameCatalog db') (name : String) :
    (r.expansion db' name).2.Guesses db := by
  rw [Resolver.expansion]
  cases (r.cache.sync db').expansion? name with
  | some known => exact ⟨h.strategy, fun _ _ _ hmem => h.mem_sync hsame hmem⟩
  | none => exact ⟨h.strategy, fun _ _ _ hmem => h.mem_sync hsame hmem⟩

theorem Guesses.lookups (h : r.Guesses db) (hrun : r.Lookups Strategy.KeyDecides db r') :
    r'.Guesses db := by
  induction hrun with
  | start => exact h
  | card _ hsame hname ih => exact (ih.card hsame hname).2
  | expansion _ hsame name ih => exact ih.expansion hsame name

end Resolver

namespace Strategy

/-- The names whose keys decide their guesses are those whose patterns do not change with the blanks
around them, unless even the smaller pattern is too large. They share their guesses with the other such
names of their keys, and a remembered guess for one of them is what would be guessed now. -/
theorem guessed_by_key (name : String) :
    (KeyDecides name ↔
      (Like.fits (guessPattern (trim name)) → guessPattern name = guessPattern (trim name))) ∧
    (PlainEnds name → KeyDecides name) ∧
    (KeyDecides name → ∀ other, KeyDecides other → canonicalName other = canonicalName name →
      ∀ db, guessCard db other = guessCard db name) ∧
    (KeyDecides name → ∀ (db : Database) (r r' : Resolver σ), r.strategy = .bestGuess →
      r.cache.generation ≠ some db.generation → r.Lookups KeyDecides db r' →
      (r'.card db name).1 = guessCard db name) := by
  refine ⟨keyDecides_iff, PlainEnds.keyDecides, ?_, ?_⟩
  · exact fun h other hother hkey db => hother.guessCard_eq h hkey db
  · intro h db r r' hr hgen hrun
    exact (((Resolver.guesses_of_ne hr hgen).lookups hrun).card (.refl db) h).1

def foxesCard : Card :=
  Database.cardOfRecord { name := "Foxes" }

/-- A card that is found when the article is dropped from its name. -/
def foxes : Database :=
  Filter.single foxesCard

theorem guessCard_foxes (hfind : foxes.findCard name = none)
    (hascii : (guessPattern name).toList.all (·.toNat < 128))
    (hlength : (guessPattern name).toList.length ≤ 10000) : guessCard foxes name =
      if Like.isMatch (guessPattern name) "Foxes" then some ⟨0⟩ else none := by
  have hnote : ¬ Like.isMatch (Like.anywhere (lower bannedNote)) (searchText "") := by
    decide +kernel
  have hname : foxesCard.name = "Foxes" := by decide
  rw [foxes, guessCard_single foxesCard rfl hnote hfind, hname]
  simp only [Like.fits_of_ascii hascii hlength, true_and]

/-- A resolver that has not been asked yet. -/
def guesser : Resolver Unit :=
  ⟨.bestGuess, .empty, ()⟩

/-- After "The Fox" has been looked up with other spaces around it. -/
theorem guessed_by_key_fox : PlainEnds "the fox" ∧ PlainEnds "  The Fox " ∧
    guessCard foxes "the fox" = some ⟨0⟩ ∧
    ((guesser.card foxes "  The Fox ").2.card foxes "the fox").1 = some ⟨0⟩ := by
  have hfox : guessCard foxes "the fox" = some ⟨0⟩ :=
    (guessCard_foxes (by decide +kernel) (by decide +kernel) (by decide +kernel)).trans
      (by decide +kernel)
  have hspaced : PlainEnds "  The Fox " := plainEnds_of_all (by decide)
  have hplain : PlainEnds "the fox" := plainEnds_of_all (by decide)
  obtain ⟨_, hkey, _, hrun⟩ := @guessed_by_key Unit "the fox"
  obtain ⟨_, hother, _⟩ := @guessed_by_key Unit "  The Fox "
  have hlookups : guesser.Lookups KeyDecides foxes (guesser.card foxes "  The Fox ").2 :=
    .card .start (.refl foxes) (hother hspaced)
  exact ⟨hplain, hspaced, hfox,
    (hrun (hkey hplain) foxes guesser _ rfl nofun hlookups).trans hfox⟩

/-- With a tab before its article a name is asked for with the article, so it has the key of the name
without the tab and another guess, and which of them is remembered depends on the one asked first. -/
theorem not_guessed_by_key : canonicalName "\tthe fox" = canonicalName "the fox" ∧
    guessCard foxes "\tthe fox" = none ∧ guessCard foxes "the fox" = some ⟨0⟩ ∧
    ((guesser.card foxes "\tthe fox").2.card foxes "the fox").1 = none := by
  have hfox : guessCard foxes "the fox" = some ⟨0⟩ :=
    (guessCard_foxes (by decide +kernel) (by decide +kernel) (by decide +kernel)).trans
      (by decide +kernel)
  have htab : guessCard foxes "\tthe fox" = none :=
    (guessCard_foxes (by decide +kernel) (by decide +kernel) (by decide +kernel)).trans
      (by decide +kernel)
  have hkey : canonicalName "the fox" = canonicalName "\tthe fox" := by decide +kernel
  refine ⟨hkey.symm, htab, hfox, ?_⟩
  have hnew : guesser.cache.generation ≠ some foxes.generation := nofun
  exact (Resolver.card_card_of_key hkey).trans ((Resolver.card_guessed rfl hnew _).trans htab)

end Strategy
end CardBinder
