import CardBinder.Proofs.Filter.Literal
import CardBinder.Proofs.Like.Guess

/-! The cards that a guess is made from: the legal ones whose names the pattern of the guess matches. A
legal card is among those for its own name when its name keeps alike to itself in lower case. -/

namespace CardBinder
open Text
variable {db : Database} {card : Card} {name : String}

theorem mem_guesses_iff {id : CardId} :
    id ∈ db.guesses name ↔ (Filter.guess db name).Picks db (.card id) := by
  rw [Database.guesses, Filter.selectCards, Filter.Picks, Row.entity]
  cases (Filter.guess db name).select db .card with
  | error failure => simp [Except.map]
  | ok rows =>
    simp only [Except.map, List.mem_filterMap, Except.ok.injEq, exists_eq_left']
    constructor
    · rintro ⟨row, hrow, hid⟩
      split at hid
      · exact Option.some.inj hid ▸ hrow
      · cases hid
    · exact fun hrow => ⟨_, hrow, rfl⟩

/-- Guessed cards stand in the order of the database, each once. -/
theorem guesses_sublist : (db.guesses name).Sublist (db.cards.map (·.id)) := by
  rw [Database.guesses]
  split
  · rename_i ids hids
    obtain ⟨-, c, -, rfl⟩ := Filter.selectCards_ok hids
    exact List.filter_sublist
  · exact List.nil_sublist _

theorem mem_guesses_card_iff (hcard : db.card? card.id = some card) : card.id ∈ db.guesses name ↔
    Like.fits (guessPattern name) ∧ Like.isMatch (guessPattern name) card.name ∧
      (Filter.legal db).Picks db (.card card.id) := by
  have hrow := Filter.card_mem_rows hcard
  have hnamed : (Filter.cardName (guessPattern name)).Picks db (.card card.id) ↔
      Like.fits (guessPattern name) ∧ Like.isMatch (guessPattern name) card.name :=
    Filter.picks_like rfl rfl hrow (by simp [Database.rowText?, Database.rowCard?, hcard])
  rw [mem_guesses_iff, Filter.guess, Filter.picks_all_iff hrow, ← and_assoc, ← hnamed]
  simp only [List.forall_mem_cons, List.not_mem_nil, false_implies, implies_true, and_true]

/-- A legal card is guessed from its own name if the pattern made of the name is not too large and
the name keeps alike to itself in lower case, and only then. -/
theorem mem_guesses_self_iff (hcard : db.card? card.id = some card)
    (hlegal : (Filter.legal db).Picks db (.card card.id)) : card.id ∈ db.guesses card.name ↔
      Like.fits (guessPattern card.name) ∧ ∀ c ∈ card.name.toList, LowersAlike c := by
  rw [mem_guesses_card_iff hcard, isMatch_guessPattern_self_iff]
  exact ⟨fun ⟨hfits, halike, _⟩ => ⟨hfits, halike⟩, fun ⟨hfits, halike⟩ => ⟨hfits, halike, hlegal⟩⟩

/-! Databases with a single card -/

namespace Filter

/-- A catalog without keywords takes the cards without the note for legal. -/
theorem legal_single (card : Card) (hcard : card.id = ⟨0⟩)
    (hnote : ¬ Like.isMatch (Like.anywhere (lower bannedNote)) card.searchText) :
    (legal (single card)).Picks (single card) (.card card.id) := by
  have hknown : (single card).card? card.id = some card := by rw [hcard]; rfl
  have hlegal : legal (single card) = .not (.textContains bannedNote) := rfl
  have hfits : Like.fits (Like.anywhere (lower bannedNote)) :=
    Like.fits_of_ascii (by decide +kernel) (by decide +kernel)
  have hcolumn : textColumn (lower bannedNote) = .searchText := by decide +kernel
  have hcondition : (legal (single card)).condition (single card) =
      .ok (.not (.like .searchText (Like.anywhere (lower bannedNote)))) := by
    rw [hlegal, textContains, condition, condition, hcolumn, Like.checked, if_pos hfits]
    rfl
  rw [hlegal] at hcondition ⊢
  rw [picks_not hcondition rfl (card_mem_rows hknown), textContains_picks hknown]
  · exact fun h => hnote h.2
  · rw [hcolumn, Database.rowText?, Database.rowCard?, hknown]
    rfl

end Filter

theorem mem_guesses_self_dog :
    ⟨0⟩ ∈ (Filter.single (Filter.namesake "Dog")).guesses "Dog" := by
  have hcard : (Filter.single (Filter.namesake "Dog")).card? (Filter.namesake "Dog").id =
      some (Filter.namesake "Dog") := rfl
  have hfits : Like.fits (guessPattern "Dog") :=
    Like.fits_of_ascii (by decide +kernel) (by decide +kernel)
  have hlegal := Filter.legal_single (Filter.namesake "Dog") rfl (by decide +kernel)
  exact (mem_guesses_self_iff hcard hlegal).mpr ⟨hfits, lowersAlike_of_all (by decide +kernel)⟩

/-- The guess of the dotted capital I asks for a dot of its own, and the letter itself has not. -/
theorem not_mem_guesses_dotted :
    (Filter.legal (Filter.single (Filter.namesake "İ"))).Picks (Filter.single (Filter.namesake "İ"))
        (.card ⟨0⟩) ∧
      ⟨0⟩ ∉ (Filter.single (Filter.namesake "İ")).guesses "İ" := by
  have hcard : (Filter.single (Filter.namesake "İ")).card? (Filter.namesake "İ").id =
      some (Filter.namesake "İ") := rfl
  have hnone : ¬ Like.isMatch (guessPattern "İ") (Filter.namesake "İ").name := by decide +kernel
  exact ⟨Filter.legal_single (Filter.namesake "İ") rfl (by decide +kernel), fun h =>
    hnone ((mem_guesses_card_iff hcard).mp h).2.1⟩

end CardBinder
