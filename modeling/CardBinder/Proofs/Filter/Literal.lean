import CardBinder.Proofs.Filter.Selection
import CardBinder.Proofs.Like.Lowercase

/-! Text that is looked for as it is written. The text is put in lower case and the rows are compared by
case folding, so a text is found wherever it occurs when folding keeps all of its characters alike to
their lower-case forms. -/

namespace CardBinder

namespace Filter
open Text
variable {db : Database} {s text : String} {column : TextColumn} {card : Card} {cs : CardSet}

theorem setTextContains_picks (hset : db.cardSet? cs.id = some cs)
    (htext : db.rowText? (.cardSet cs.id) column = some text) :
    (setTextContains column s).Picks db (.cardSet cs.id) ↔
      Like.fits (Like.anywhere (lower s)) ∧ Like.isMatch (Like.anywhere (lower s)) text :=
  picks_like rfl rfl (cardSet_mem_rows hset) htext

theorem nameContains_picks (hcard : db.card? card.id = some card) :
    (nameContains s).Picks db (.card card.id) ↔
      Like.fits (Like.anywhere (lower s)) ∧ Like.isMatch (Like.anywhere (lower s)) card.name :=
  picks_like rfl rfl (card_mem_rows hcard) (by simp [Database.rowText?, Database.rowCard?, hcard])

theorem textContains_picks (hcard : db.card? card.id = some card)
    (htext : db.rowText? (.card card.id) (textColumn (lower s)) = some text) :
    (textContains s).Picks db (.card card.id) ↔
      Like.fits (Like.anywhere (lower s)) ∧ Like.isMatch (Like.anywhere (lower s)) text :=
  picks_like rfl rfl (card_mem_rows hcard) htext

/-- A text without braces is in the searched text where it is in the printed one. -/
theorem infix_searchText (hopen : '\x7b' ∉ s.toList) (hclose : '\x7d' ∉ s.toList)
    (h : s.toList <:+: text.toList) : s.toList <:+: (searchText text).toList := by
  have hkept := h.filter fun c => c != '\x7b' && c != '\x7d'
  rw [List.filter_eq_self.mpr] at hkept
  · rwa [searchText, String.toList_ofList]
  · intro c hc
    simp only [Bool.and_eq_true, bne_iff_ne]
    exact ⟨fun h => hopen (h ▸ hc), fun h => hclose (h ▸ hc)⟩

/-- The text that a card filter looks into has the text looked for in it. -/
theorem exists_searched (hcard : db.card? card.id = some card)
    (hsearch : card.searchText = searchText card.text) (h : s.toList <:+: card.text.toList) :
    ∃ text, db.rowText? (.card card.id) (textColumn (lower s)) = some text ∧
      s.toList <:+: text.toList := by
  rw [textColumn]
  split
  · exact ⟨card.text, by simp [Database.rowText?, Database.rowCard?, hcard], h⟩
  · rename_i hbraces
    simp only [Bool.or_eq_true, List.contains_iff_mem, not_or, lower, String.toList_ofList]
      at hbraces
    refine ⟨card.searchText, by simp [Database.rowText?, Database.rowCard?, hcard], ?_⟩
    rw [hsearch]
    exact infix_searchText (fun hmem => hbraces.1 (mem_lowerChars (fun _ _ => rfl) hmem))
      (fun hmem => hbraces.2 (mem_lowerChars (fun _ _ => rfl) hmem)) h

/-- The texts of a card set, with the columns they are in. -/
def setTexts (cs : CardSet) : List (TextColumn × String) :=
  [(.setName, cs.name), (.setAuthor, cs.author), (.setComment, cs.comment),
    (.setAnnotations, cs.annotations)]

theorem rowText?_of_mem_setTexts (hset : db.cardSet? cs.id = some cs)
    (h : (column, text) ∈ setTexts cs) : db.rowText? (.cardSet cs.id) column = some text := by
  simp only [setTexts, List.mem_cons, List.not_mem_nil, or_false, Prod.mk.injEq] at h
  rcases h with ⟨rfl, rfl⟩ | ⟨rfl, rfl⟩ | ⟨rfl, rfl⟩ | ⟨rfl, rfl⟩ <;>
    simp [Database.rowText?, Database.rowCardSet?, hset]

/-- The text is found by each text filter in every row that has it in the text the filter is about. -/
structure FindsLiterally (s : String) : Prop where
  cardText : ∀ (db : Database) (card : Card), db.card? card.id = some card →
    card.searchText = searchText card.text → s.toList <:+: card.text.toList →
    (textContains s).Picks db (.card card.id)
  cardName : ∀ (db : Database) (card : Card), db.card? card.id = some card →
    s.toList <:+: card.name.toList → (nameContains s).Picks db (.card card.id)
  setText : ∀ (db : Database) (cs : CardSet), db.cardSet? cs.id = some cs →
    ∀ column text, (column, text) ∈ setTexts cs → s.toList <:+: text.toList →
    (setTextContains column s).Picks db (.cardSet cs.id)

/-- A card with the text as its name and on it. -/
def namesake (s : String) : Card :=
  { Database.cardOfRecord { name := s, text := s } with name := s }

def single (card : Card) : Database :=
  { Database.empty with cards := [card] }

/-- A text is found literally if it keeps alike to itself in lower case and does not make too large
a pattern, and only then. -/
theorem findsLiterally_iff (s : String) : FindsLiterally s ↔
    Like.fits (Like.anywhere (lower s)) ∧ ∀ c ∈ s.toList, LowersAlike c := by
  constructor
  · intro h
    have hself := h.cardName (single (namesake s)) (namesake s) rfl List.infix_rfl
    rw [nameContains_picks rfl] at hself
    exact ⟨hself.1, Like.isMatch_anywhere_lower_iff.mp hself.2⟩
  · rintro ⟨hfits, halike⟩
    have hmatch : ∀ text : String, s.toList <:+: text.toList →
        Like.isMatch (Like.anywhere (lower s)) text := fun text hpart =>
      Like.isMatch_anywhere_iff.mpr ⟨s, hpart, Like.isMatch_lower_iff.mpr halike⟩
    constructor
    case cardText =>
      intro db card hcard hsearch hpart
      obtain ⟨text, htext, hpart⟩ := exists_searched hcard hsearch hpart
      exact (textContains_picks hcard htext).mpr ⟨hfits, hmatch text hpart⟩
    case cardName =>
      intro db card hcard hpart
      exact (nameContains_picks hcard).mpr ⟨hfits, hmatch card.name hpart⟩
    case setText =>
      intro db cs hset column text hcolumn hpart
      exact (setTextContains_picks hset (rowText?_of_mem_setTexts hset hcolumn)).mpr
        ⟨hfits, hmatch text hpart⟩

/-- The lower-case form of the dotted capital I has a dot of its own, and the letter itself has not. -/
theorem not_findsLiterally_dotted :
    ¬ (nameContains "İ").Picks (single (namesake "İ")) (.card ⟨0⟩) ∧
      ¬ (textContains "İ").Picks (single (namesake "İ")) (.card ⟨0⟩) ∧ ¬ FindsLiterally "İ" := by
  have hcard : (single (namesake "İ")).card? (namesake "İ").id = some (namesake "İ") := rfl
  have hnone : ¬ Like.isMatch (Like.anywhere (lower "İ")) "İ" := by decide +kernel
  have hname : ¬ (nameContains "İ").Picks (single (namesake "İ")) (.card ⟨0⟩) := fun h =>
    hnone ((nameContains_picks hcard).mp h).2
  have htext : (single (namesake "İ")).rowText? (.card ⟨0⟩) (textColumn (lower "İ")) = some "İ" := by
    decide +kernel
  exact ⟨hname, fun h => hnone ((textContains_picks hcard htext).mp h).2,
    fun h => hname (h.cardName _ _ hcard List.infix_rfl)⟩

end Filter
end CardBinder
