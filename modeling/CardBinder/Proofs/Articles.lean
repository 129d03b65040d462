import CardBinder.Proofs.Database.Stocked
import CardBinder.Proofs.Text.Cut

/-! Articles at either end of a name. Moving an article to one end and moving it to the other undo each
other on the names they change, so a card is found with its article at either end. -/

namespace CardBinder
open Text
variable {name behind front : String} {article : List Char}

/-! The two forms of a name -/

/-- One name with its article behind it and in front of it. -/
inductive ArticleForms : String → String → Prop
  | of {body article : List Char} : isArticle article → '\n' ∉ body → '\n' ∉ article →
      ArticleForms (String.ofList (body ++ [',', ' '] ++ article))
        (String.ofList (article ++ [' '] ++ body))

/-- An article is a single word. -/
theorem notMem_of_isArticle (h : isArticle article) : ',' ∉ article ∧ ' ' ∉ article := by
  rw [isArticle, List.contains_iff_mem] at h
  have hlower : ∀ c ∈ article, ∃ word ∈ ["the", "an", "a"], c.toLower ∈ word.toList := by
    intro c hc
    refine ⟨_, h, ?_⟩
    rw [String.toList_ofList]
    exact List.mem_map_of_mem hc
  constructor <;> intro hc <;> exact absurd (hlower _ hc) (by decide)

namespace ArticleForms

theorem toFront (h : ArticleForms behind front) : articleToFront behind = front := by
  obtain @⟨body, article, harticle, hbody, hline⟩ := h
  have hlast : ¬ [',', ' '] <:+: ([',', ' '] ++ article).tail := by
    intro hin
    have hcomma : ',' ∈ ' ' :: article := hin.subset List.mem_cons_self
    simp [(notMem_of_isArticle harticle).1] at hcomma
  rw [articleToFront, String.toList_ofList, cutLastChars_append (by simp) hlast]
  simp [harticle, hbody, hline]

theorem toBack (h : ArticleForms behind front) : articleToBack front = behind := by
  obtain @⟨body, article, harticle, hbody, hline⟩ := h
  have hfirst : ¬ [' '] <:+: (article ++ [' ']).dropLast :=
    not_infix_of_notMem (notMem_of_isArticle harticle).2
  rw [articleToBack, String.toList_ofList, cutFirstChars_append (by simp) hfirst]
  simp [harticle, hbody, hline]

theorem length_eq (h : ArticleForms behind front) :
    behind.toList.length = front.toList.length + 1 := by
  obtain ⟨_, _⟩ := h
  simp
  omega

end ArticleForms

theorem articleToFront_cases (name : String) :
    articleToFront name = name ∨ ArticleForms name (articleToFront name) := by
  rw [articleToFront]
  split
  · rename_i body article hcut
    split
    · rename_i hmoved
      obtain ⟨harticle, hline⟩ := Bool.and_eq_true_iff.mp hmoved
      have hname := eq_append_of_cutLastChars hcut
      have hlines : '\n' ∉ body ∧ '\n' ∉ article := by simpa [hname] using hline
      have hforms : ArticleForms (String.ofList (body ++ [',', ' '] ++ article)) _ :=
        .of harticle hlines.1 hlines.2
      rw [← hname, String.ofList_toList, List.append_assoc] at hforms
      exact .inr hforms
    · exact .inl rfl
  · exact .inl rfl

theorem articleToBack_cases (name : String) :
    articleToBack name = name ∨ ArticleForms (articleToBack name) name := by
  rw [articleToBack]
  split
  · rename_i article body hcut
    split
    · rename_i hmoved
      obtain ⟨harticle, hline⟩ := Bool.and_eq_true_iff.mp hmoved
      have hname := eq_append_of_cutFirstChars hcut
      have hlines : '\n' ∉ article ∧ '\n' ∉ body := by simpa [hname] using hline
      have hforms : ArticleForms _ (String.ofList (article ++ [' '] ++ body)) :=
        .of harticle hlines.2 hlines.1
      rw [← hname, String.ofList_toList, List.append_assoc] at hforms
      exact .inr hforms
    · exact .inl rfl
  · exact .inl rfl

theorem length_articleToFront_le (name : String) :
    (articleToFront name).toList.length ≤ name.toList.length := by
  rcases articleToFront_cases name with hsame | hforms
  · rw [hsame]
  · have := hforms.length_eq
    omega

/-! Cards found -/

namespace Database
variable {db : Database} {c : Card} {query : String}

/-- A card is found under its key, and under its key with an article moved from one end to the other
when no other card is filed under that or has it with its article in front. -/
theorem CatalogValid.findCard_articles (hv : db.CatalogValid) (hc : c ∈ db.cards) (query : String) :
    (canonicalName query = c.canonicalName → db.findCard query = some c.id) ∧
      (canonicalName query = articleToFront c.canonicalName ∨
          canonicalName query = articleToBack c.canonicalName →
        (∀ d ∈ db.cards, d.canonicalName = canonicalName query ∨
          d.canonicalName = articleToFront (canonicalName query) → d = c) →
        db.findCard query = some c.id) := by
  have hkey := hv.cardWithKey?_mem_cards hc
  have hsame : canonicalName query = c.canonicalName → db.findCard query = some c.id := by
    intro heq
    simp only [findCard, heq, hkey]
  refine ⟨hsame, fun hmoved halone => ?_⟩
  rcases hmoved with hfront | hback
  · rcases articleToFront_cases c.canonicalName with hstays | hforms
    · exact hsame (hfront.trans hstays)
    · rw [← hfront] at hforms
      have hlength := hforms.length_eq
      have hshorter := length_articleToFront_le (canonicalName query)
      have hnone : db.cardWithKey? (canonicalName query) = none := by
        refine cardWithKey?_eq_none_iff.mpr fun d hd heq => ?_
        rw [← heq, halone d hd (.inl heq)] at hlength
        omega
      have hfree : db.cardWithKey? (articleToFront (canonicalName query)) = none := by
        refine cardWithKey?_eq_none_iff.mpr fun d hd heq => ?_
        rw [← heq, halone d hd (.inr heq)] at hshorter
        omega
      simp only [findCard, hnone, hfree, hforms.toBack, hkey]
  · rcases articleToBack_cases c.canonicalName with hstays | hforms
    · exact hsame (hback.trans hstays)
    · rw [← hback] at hforms
      have hlength := hforms.length_eq
      have hnone : db.cardWithKey? (canonicalName query) = none := by
        refine cardWithKey?_eq_none_iff.mpr fun d hd heq => ?_
        rw [← heq, halone d hd (.inl heq)] at hlength
        omega
      simp only [findCard, hnone, hforms.toFront, hkey]

/-- In every database that catalogs were loaded into, a card is found under both forms of its name. -/
theorem Stocked.findCard_either_form (h : db.Stocked) (hc : c ∈ db.cards) (query : String) :
    c.canonicalName = canonicalName c.name ∧
      (canonicalName query = c.canonicalName → db.findCard query = some c.id) ∧
      (canonicalName query = articleToFront c.canonicalName ∨
          canonicalName query = articleToBack c.canonicalName →
        (∀ d ∈ db.cards, d.canonicalName = canonicalName query ∨
          d.canonicalName = articleToFront (canonicalName query) → d = c) →
        db.findCard query = some c.id) :=
  ⟨h.canonicalName_eq c hc, h.orderly.toCatalogValid.findCard_articles hc query⟩

/-- Three cards: with an article behind the name, with one in front, and with one at either end. -/
def abbey : Database :=
  (empty.loadCatalog
    { cards := [{ name := "Abbot, The" }, { name := "The Monk" }, { name := "The Bell, A" }] }).1

theorem findCard_either_form_abbey :
    abbey.findCard "the abbot" = some ⟨0⟩ ∧ abbey.findCard " Monk, the" = some ⟨1⟩ ∧
      abbey.findCard "A The Bell" = some ⟨2⟩ ∧ abbey.findCard "bell, a, THE" = some ⟨2⟩ := by
  have hstocked : abbey.Stocked := .loadCatalog .empty (by decide +kernel)
  have hfound : ∀ (query : String) (id : CardId), (∃ c ∈ abbey.cards, c.id = id ∧
      (canonicalName query = articleToFront c.canonicalName ∨
        canonicalName query = articleToBack c.canonicalName) ∧
      ∀ d ∈ abbey.cards, d.canonicalName = canonicalName query ∨
        d.canonicalName = articleToFront (canonicalName query) → d = c) →
      abbey.findCard query = some id := by
    rintro query id ⟨c, hc, rfl, hform, halone⟩
    exact (hstocked.findCard_either_form hc query).2.2 hform halone
  exact ⟨hfound _ _ (by decide +kernel), hfound _ _ (by decide +kernel),
    hfound _ _ (by decide +kernel), hfound _ _ (by decide +kernel)⟩

end Database

end CardBinder
