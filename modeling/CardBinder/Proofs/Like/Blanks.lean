import CardBinder.Proofs.Like.Guess
import CardBinder.Proofs.Names

/-! Blanks around a name, and the guess made of the name. An article at either end of the name is dropped
when plain spaces stand around it, and asked for next to any other blank. -/

namespace CardBinder
open Text
variable {b c : Char} {cs first last left right : List Char}

/-- The article alone, without a space behind it. -/
def articleStart : List Char := [' ', 't', 'h', 'e']

/-- The article alone, without a space before it. -/
def articleEnd : List Char := ['t', 'h', 'e', ' ']

/-! Where articles are dropped -/

theorem isBlank_space : isBlank ' ' := rfl

theorem dropArticles_found (cs : List Char) : dropArticles (article ++ cs) = ' ' :: dropArticles cs :=
  replaceChars_found (by decide) [' '] cs

theorem dropArticles_kept (h : ¬ article <+: c :: cs) :
    dropArticles (c :: cs) = c :: dropArticles cs :=
  replaceChars_kept h [' ']

theorem article_prefix_cons : article <+: c :: cs ↔ c = ' ' ∧ articleEnd <+: cs := by
  rw [show article = ' ' :: articleEnd from rfl, List.cons_prefix_cons, eq_comm]

theorem dropArticles_cons_of_ne (h : c ≠ ' ') : dropArticles (c :: cs) = c :: dropArticles cs :=
  dropArticles_kept fun hbegins => h (article_prefix_cons.mp hbegins).1

/-- No article begins right before a blank. -/
theorem dropArticles_before_blank (hb : isBlank b) :
    dropArticles (c :: b :: cs) = c :: dropArticles (b :: cs) := by
  refine dropArticles_kept fun hbegins => ?_
  obtain ⟨_, rest, hrest⟩ := article_prefix_cons.mp hbegins
  rw [← (List.cons.inj hrest).1] at hb
  cases hb

theorem dropArticles_blanks_append (h : ∀ c ∈ left, isBlank c) (hb : isBlank b) :
    dropArticles (left ++ b :: cs) = left ++ dropArticles (b :: cs) := by
  induction left with
  | nil => rfl
  | cons c left ih =>
    obtain ⟨hc, hleft⟩ := List.forall_mem_cons.mp h
    rw [List.cons_append, List.cons_append, ← ih hleft]
    cases left with
    | nil => exact dropArticles_before_blank hb
    | cons c' left => exact dropArticles_before_blank (hleft c' List.mem_cons_self)

theorem dropArticles_singleton (c : Char) : dropArticles [c] = [c] :=
  dropArticles_kept fun hbegins => by simp [article_prefix_cons, articleEnd] at hbegins

theorem dropArticles_of_blanks (h : ∀ c ∈ cs, isBlank c) : dropArticles cs = cs := by
  rcases List.eq_nil_or_concat cs with rfl | ⟨left, b, rfl⟩
  · rfl
  · rw [List.concat_eq_append] at h ⊢
    have hleft : ∀ c ∈ left, isBlank c := fun c hc => h c (List.mem_append_left _ hc)
    have hb : isBlank b := h b (by simp)
    rw [dropArticles_blanks_append hleft hb, dropArticles_singleton]

/-- An article that goes on to a blank ends there: no letter of it is a blank. -/
theorem article_to_blank (hb : isBlank b) (hne : first ≠ []) (h : article <+: first ++ b :: last) :
    article <+: first ∨ first = articleStart ∧ b = ' ' := by
  have ht : 't' ≠ b := by rintro rfl; cases hb
  have hh : 'h' ≠ b := by rintro rfl; cases hb
  have he : 'e' ≠ b := by rintro rfl; cases hb
  match first, hne with
  | [_], _ => simp [article, ht] at h
  | [_, _], _ => simp [article, hh] at h
  | [_, _, _], _ => simp [article, he] at h
  | [_, _, _, _], _ =>
    obtain ⟨rfl, rfl, rfl, rfl, rfl⟩ : _ ∧ _ ∧ _ ∧ _ ∧ _ := by simpa [article] using h
    exact .inr ⟨rfl, rfl⟩
  | _ :: _ :: _ :: _ :: _ :: _, _ => exact .inl (by simpa [article] using h)

theorem articleEnd_to_blank (h : ∀ c ∈ right, isBlank c)
    (hbegins : articleEnd <+: cs ++ (right ++ [' '])) : articleEnd <+: cs ++ [' '] := by
  cases right with
  | nil => exact hbegins
  | cons b right =>
    have hwhole : article <+: ' ' :: cs ++ b :: (right ++ [' ']) :=
      article_prefix_cons.mpr ⟨rfl, hbegins⟩
    rcases article_to_blank (h b List.mem_cons_self) (List.cons_ne_nil _ _) hwhole with
      hwithin | ⟨hstart, _⟩
    · exact (article_prefix_cons.mp hwithin).2.trans (List.prefix_append _ _)
    · rw [(List.cons.inj hstart).2]
      exact List.prefix_rfl

/-! Blanks at the end -/

/-- What is dropped before a blank does not depend on the blanks after it. -/
theorem dropArticles_append_blanks (hb : isBlank b) (h : ∀ c ∈ right, isBlank c) (cs : List Char) :
    dropArticles (cs ++ b :: right) = dropArticles (cs ++ [b]) ++ right := by
  have hblanks : dropArticles (b :: right) = b :: right :=
    dropArticles_of_blanks (List.forall_mem_cons.mpr ⟨hb, h⟩)
  have hnone : dropArticles right = right := dropArticles_of_blanks h
  induction cs using replaced_induction (show article ≠ [] by decide) with
  | nil => rw [List.nil_append, List.nil_append, hblanks, dropArticles_singleton]; rfl
  | found cs ih =>
    rw [List.append_assoc, List.append_assoc, dropArticles_found, dropArticles_found, ih]
    rfl
  | kept c cs hkept ih =>
    by_cases hends : c :: cs = articleStart ∧ b = ' '
    · obtain ⟨hstart, rfl⟩ := hends
      have hright : c :: cs ++ ' ' :: right = article ++ right := by rw [hstart]; rfl
      have halone : c :: cs ++ [' '] = article ++ [] := by rw [hstart]; rfl
      rw [hright, halone, dropArticles_found, dropArticles_found, hnone]
      rfl
    · have hnot : ∀ last, ¬ article <+: c :: (cs ++ b :: last) := fun last hbegins =>
        (article_to_blank hb (List.cons_ne_nil c cs) hbegins).elim hkept hends
      rw [List.cons_append, List.cons_append, dropArticles_kept (hnot right),
        dropArticles_kept (hnot []), ih]
      rfl

theorem dropArticles_articleStart (h : b ≠ ' ') :
    dropArticles (articleStart ++ [b]) = articleStart ++ [b] := by
  have hnot : ¬ article <+: ' ' :: 't' :: 'h' :: 'e' :: [b] := by
    simp [article, h.symm]
  change dropArticles (' ' :: 't' :: 'h' :: 'e' :: [b]) = _
  rw [dropArticles_kept hnot, dropArticles_cons_of_ne (by decide),
    dropArticles_cons_of_ne (by decide), dropArticles_cons_of_ne (by decide),
    dropArticles_singleton]
  rfl

/-- Where a plain space ends the text, an article before it is dropped; with another blank in the place
of the space it stays, and nothing else changes. -/
theorem dropArticles_concat (hb : isBlank b) (cs : List Char) :
    ∃ kept, dropArticles (cs ++ [' ']) = kept ++ [' '] ∧
      (dropArticles (cs ++ [b]) = kept ++ [b] ∨
        dropArticles (cs ++ [b]) = kept ++ articleStart ++ [b] ∧ b ≠ ' ' ∧ articleStart <:+ cs) := by
  induction cs using replaced_induction (show article ≠ [] by decide) with
  | nil => exact ⟨[], dropArticles_singleton ' ', .inl (dropArticles_singleton b)⟩
  | found cs ih =>
    obtain ⟨kept, hspace, hblank⟩ := ih
    simp only [List.append_assoc, dropArticles_found, hspace]
    refine ⟨' ' :: kept, rfl, hblank.imp (fun h => by rw [h]; rfl) fun ⟨h, hne, hends⟩ => ?_⟩
    exact ⟨by rw [h]; simp, hne, hends.trans (List.suffix_append _ _)⟩
  | kept c cs hkept ih =>
    by_cases hstart : c :: cs = articleStart
    · have hspace : dropArticles (c :: cs ++ [' ']) = [' '] := by rw [hstart]; rfl
      refine ⟨[], hspace, ?_⟩
      by_cases hplain : b = ' '
      · exact .inl (hplain ▸ hspace)
      · refine .inr ⟨?_, hplain, hstart ▸ List.suffix_rfl⟩
        rw [hstart]
        exact dropArticles_articleStart hplain
    · obtain ⟨kept, hspace, hblank⟩ := ih
      have hnot : ∀ {b : Char}, isBlank b → ¬ article <+: c :: (cs ++ [b]) := fun hb hbegins =>
        (article_to_blank hb (List.cons_ne_nil c cs) hbegins).elim hkept fun h => hstart h.1
      simp only [List.cons_append, dropArticles_kept (hnot hb), dropArticles_kept (hnot isBlank_space),
        hspace]
      refine ⟨c :: kept, rfl, hblank.imp (fun h => by rw [h]; rfl) fun ⟨h, hne, hends⟩ => ?_⟩
      exact ⟨by rw [h]; simp, hne, hends.trans (List.suffix_cons c cs)⟩

/-! The words of a guess -/

theorem blurWords_append_blank (hb : isBlank b) (first last : List Char) :
    blurWords (first ++ b :: last) = blurWords first ++ blurWords last := by
  rw [blurWords, List.map_append, List.map_cons, blur_of_isBlank hb, words_append_blank hb]
  rfl

theorem blurWords_cons_blank (hb : isBlank b) (cs : List Char) : blurWords (b :: cs) = blurWords cs :=
  blurWords_append_blank hb [] cs

theorem blurWords_blanks_append (h : ∀ c ∈ left, isBlank c) (cs : List Char) :
    blurWords (left ++ cs) = blurWords cs := by
  induction left with
  | nil => rfl
  | cons b left ih =>
    obtain ⟨hb, hleft⟩ := List.forall_mem_cons.mp h
    rw [List.cons_append, blurWords_cons_blank hb, ih hleft]

theorem blurWords_append_blanks (h : ∀ c ∈ right, isBlank c) (cs : List Char) :
    blurWords (cs ++ right) = blurWords cs := by
  cases right with
  | nil => rw [List.append_nil]
  | cons b right =>
    obtain ⟨hb, hright⟩ := List.forall_mem_cons.mp h
    have hnone : blurWords (right ++ []) = blurWords [] := blurWords_blanks_append hright []
    rw [blurWords_append_blank hb, ← List.append_nil right, hnone]
    exact List.append_nil _

theorem blurWords_concat_blank (hb : isBlank b) (cs : List Char) :
    blurWords (cs ++ [b]) = blurWords cs :=
  blurWords_append_blanks (by simpa using hb) cs

/-- What a guess asks for in the place of an article. -/
def articleWord : List Char := ['t', 'h', '_']

theorem exists_dropArticles_space (cs : List Char) : ∃ rest, dropArticles (' ' :: cs) = ' ' :: rest := by
  by_cases hbegins : article <+: ' ' :: cs
  · obtain ⟨rest, hrest⟩ := hbegins
    exact ⟨_, hrest ▸ dropArticles_found rest⟩
  · exact ⟨_, dropArticles_kept hbegins⟩

/-- An article at the very start of a text is asked for. -/
theorem blurWords_articleEnd_append (cs : List Char) : blurWords (dropArticles (articleEnd ++ cs)) =
    articleWord :: blurWords (dropArticles (' ' :: cs)) := by
  obtain ⟨rest, hrest⟩ := exists_dropArticles_space cs
  have hkept : dropArticles (articleEnd ++ cs) = ['t', 'h', 'e'] ++ ' ' :: rest := by
    change dropArticles ('t' :: 'h' :: 'e' :: ' ' :: cs) = _
    rw [dropArticles_cons_of_ne (by decide), dropArticles_cons_of_ne (by decide),
      dropArticles_cons_of_ne (by decide), hrest]
    rfl
  rw [hkept, hrest, blurWords_append_blank isBlank_space, blurWords_cons_blank isBlank_space]
  rfl

/-- A text may begin with an article that is dropped behind a space. As each article takes a space away
from the next one, this is by induction on the articles that the text begins with. -/
theorem blurWords_dropArticles_space (cs : List Char) :
    blurWords (dropArticles cs) = blurWords (dropArticles (' ' :: cs)) ∨
      blurWords (dropArticles cs) = articleWord :: blurWords (dropArticles (' ' :: cs)) ∧
        articleEnd <+: cs := by
  induction hlength : cs.length using Nat.strong_induction_on generalizing cs with
  | _ n ih =>
    subst hlength
    by_cases hbegins : articleEnd <+: cs
    · obtain ⟨rest, rfl⟩ := hbegins
      have hdropped : blurWords (dropArticles (' ' :: (articleEnd ++ rest))) =
          blurWords (dropArticles rest) := by
        rw [show ' ' :: (articleEnd ++ rest) = article ++ rest from rfl, dropArticles_found,
          blurWords_cons_blank isBlank_space]
      have hshorter : rest.length < (articleEnd ++ rest).length :=
        List.length_append ▸ Nat.lt_add_of_pos_left (by decide)
      rw [hdropped, blurWords_articleEnd_append]
      rcases ih rest.length hshorter rest rfl with hsame | ⟨hmore, _⟩
      · exact .inr ⟨by rw [hsame], List.prefix_append _ _⟩
      · exact .inl hmore.symm
    · have hkept : dropArticles (' ' :: cs) = ' ' :: dropArticles cs :=
        dropArticles_kept fun h => hbegins (article_prefix_cons.mp h).2
      exact .inl (by rw [hkept, blurWords_cons_blank isBlank_space])

/-- Blanks at the start matter when an article follows one that is not a plain space. -/
theorem blurWords_blanks_start (h : ∀ c ∈ left, isBlank c) (cs : List Char) :
    blurWords (dropArticles (' ' :: left ++ cs)) = blurWords (dropArticles (' ' :: cs)) ∨
      blurWords (dropArticles (' ' :: left ++ cs)) =
        articleWord :: blurWords (dropArticles (' ' :: cs)) ∧
      articleEnd <+: cs ∧ ∃ b ∈ left, b ≠ ' ' := by
  rcases List.eq_nil_or_concat left with rfl | ⟨front, b, rfl⟩
  · exact .inl rfl
  · rw [List.concat_eq_append] at h ⊢
    have hfront : ∀ c ∈ ' ' :: front, isBlank c :=
      List.forall_mem_cons.mpr ⟨isBlank_space, fun c hc => h c (List.mem_append_left _ hc)⟩
    have hb : isBlank b := h b (by simp)
    have hnear : blurWords (dropArticles (' ' :: (front ++ [b]) ++ cs)) =
        blurWords (dropArticles (b :: cs)) := by
      rw [← List.cons_append, List.append_assoc, List.singleton_append,
        dropArticles_blanks_append hfront hb, blurWords_blanks_append hfront]
    rw [hnear]
    by_cases hplain : b = ' '
    · exact .inl (by rw [hplain])
    · rw [dropArticles_cons_of_ne hplain, blurWords_cons_blank hb]
      exact (blurWords_dropArticles_space cs).imp_right fun ⟨hmore, hbegins⟩ =>
        ⟨hmore, hbegins, b, by simp, hplain⟩

/-- Blanks at the end matter when an article stands before one that is not a plain space. -/
theorem blurWords_blanks_end (h : ∀ c ∈ right, isBlank c) (cs : List Char) :
    blurWords (dropArticles (cs ++ (right ++ [' ']))) = blurWords (dropArticles (cs ++ [' '])) ∨
      blurWords (dropArticles (cs ++ (right ++ [' ']))) =
        blurWords (dropArticles (cs ++ [' '])) ++ [articleWord] ∧
      articleStart <:+ cs ∧ ∃ b ∈ right, b ≠ ' ' := by
  cases right with
  | nil => exact .inl rfl
  | cons b back =>
    obtain ⟨hb, hback⟩ := List.forall_mem_cons.mp h
    have hblanks : ∀ c ∈ back ++ [' '], isBlank c :=
      List.forall_mem_append.mpr ⟨hback, by simp [isBlank_space]⟩
    obtain ⟨kept, hspace, hblank⟩ := dropArticles_concat hb cs
    rw [List.cons_append, dropArticles_append_blanks hb hblanks, blurWords_append_blanks hblanks,
      hspace, blurWords_concat_blank isBlank_space]
    rcases hblank with hsame | ⟨hmore, hplain, hends⟩
    · exact .inl (by rw [hsame, blurWords_concat_blank hb])
    · refine .inr ⟨?_, hends, b, List.mem_cons_self, hplain⟩
      have hword : kept ++ articleStart = kept ++ ' ' :: ['t', 'h', 'e'] := rfl
      rw [hmore, blurWords_concat_blank hb, hword, blurWords_append_blank isBlank_space]
      rfl

/-! Names with blanks around them -/

/-- The guess of a name asks for no more than an article more, at either end, than the guess of the
name without the blanks around it: at the start when the name begins with an article that follows a
blank that is not a plain space, and at the end likewise. -/
theorem exists_guessWords_eq (cs : List Char) : ∃ before after,
    guessWords cs = before ++ guessWords (trimChars cs) ++ after ∧
      (before = [] ∨ before = [articleWord] ∧ articleEnd <+: lowerChars (trimChars cs) ++ [' '] ∧
        ∃ b ∈ cs, isBlank b ∧ b ≠ ' ') ∧
      (after = [] ∨ after = [articleWord] ∧ articleStart <:+ ' ' :: lowerChars (trimChars cs) ∧
        ∃ b ∈ cs, isBlank b ∧ b ≠ ' ') := by
  obtain ⟨left, right, hleft, hright, hcs⟩ := exists_blanks_trimChars cs
  have hleftBlank : (∃ b ∈ left, b ≠ ' ') → ∃ b ∈ cs, isBlank b ∧ b ≠ ' ' :=
    fun ⟨b, hb, hplain⟩ => ⟨b, by rw [hcs]; simp [hb], hleft b hb, hplain⟩
  have hrightBlank : (∃ b ∈ right, b ≠ ' ') → ∃ b ∈ cs, isBlank b ∧ b ≠ ' ' :=
    fun ⟨b, hb, hplain⟩ => ⟨b, by rw [hcs]; simp [hb], hright b hb, hplain⟩
  have hwords : guessWords cs =
      blurWords (dropArticles (' ' :: left ++ (lowerChars (trimChars cs) ++ (right ++ [' '])))) := by
    have hlower := congrArg lowerChars hcs
    rw [lowerChars_blanks hleft hright] at hlower
    rw [guessWords, hlower]
    simp
  have hstart := blurWords_blanks_start hleft (lowerChars (trimChars cs) ++ (right ++ [' ']))
  have hend := blurWords_blanks_end hright (' ' :: lowerChars (trimChars cs))
  rw [← hwords] at hstart
  rw [List.cons_append] at hend
  obtain ⟨after, hafter, hasked⟩ : ∃ after,
      blurWords (dropArticles (' ' :: (lowerChars (trimChars cs) ++ (right ++ [' '])))) =
        guessWords (trimChars cs) ++ after ∧
      (after = [] ∨ after = [articleWord] ∧ articleStart <:+ ' ' :: lowerChars (trimChars cs) ∧
        ∃ b ∈ cs, isBlank b ∧ b ≠ ' ') := by
    rcases hend with hend | ⟨hend, hsuffix, hblank⟩
    · exact ⟨[], by rw [hend, List.append_nil]; rfl, .inl rfl⟩
    · exact ⟨[articleWord], hend, .inr ⟨rfl, hsuffix, hrightBlank hblank⟩⟩
  rw [hafter] at hstart
  rcases hstart with hstart | ⟨hstart, hbegins, hblank⟩
  · exact ⟨[], after, hstart, .inl rfl, hasked⟩
  · exact ⟨[articleWord], after, hstart,
      .inr ⟨rfl, articleEnd_to_blank hright hbegins, hleftBlank hblank⟩, hasked⟩

end CardBinder
