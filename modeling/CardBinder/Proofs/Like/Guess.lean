import CardBinder.Names
import CardBinder.Proofs.Like.Lowercase
import CardBinder.Proofs.Text.Words

/-! The pattern that guesses a card: the words of a name in their order, with a place for each vowel and
mark. A name is matched by the pattern made of it when its lower-case form stays alike to it. -/

namespace CardBinder
open Text

namespace Like
variable {ws : List (List Char)} {word rest text : List Char}

/-- The words are in the text one after the other, with anything before, between and after them. -/
inductive FindsInOrder : List (List Char) → List Char → Prop
  | nil (text : List Char) : FindsInOrder [] text
  | cons {word part after : List Char} {ws : List (List Char)} (before : List Char)
      (hword : Splits word part) (hrest : FindsInOrder ws after) :
      FindsInOrder (word :: ws) (before ++ part ++ after)

theorem findsInOrder_cons : FindsInOrder (word :: ws) text ↔ ∃ before part after,
    Splits word part ∧ FindsInOrder ws after ∧ text = before ++ part ++ after := by
  constructor
  · rintro (_ | ⟨before, hword, hrest⟩)
    exact ⟨before, _, _, hword, hrest, rfl⟩
  · rintro ⟨before, part, after, hword, hrest, rfl⟩
    exact .cons before hword hrest

theorem splits_run_word_iff : Splits ('%' :: word ++ rest) text ↔ ∃ before part after,
    Splits word part ∧ Splits rest after ∧ text = before ++ part ++ after := by
  rw [List.cons_append, splits_cons]
  simp only [splits_append]
  constructor
  · rintro ⟨before, _, _, ⟨part, after, hword, hrest, rfl⟩, rfl⟩
    exact ⟨before, part, after, hword, hrest, (List.append_assoc ..).symm⟩
  · rintro ⟨before, part, after, hword, hrest, rfl⟩
    exact ⟨before, _, .anyRun before, ⟨part, after, hword, hrest, rfl⟩, List.append_assoc ..⟩

theorem splits_intercalate_iff (ws : List (List Char)) (text : List Char) :
    Splits ('%' :: ['%'].intercalate ws ++ ['%']) text ↔ FindsInOrder ws text := by
  induction ws generalizing text with
  | nil =>
    rw [List.intercalate_nil, splits_run_word_iff]
    exact ⟨fun _ => .nil text, fun _ => ⟨text, [], [], splits_nil.mpr rfl, splits_run, by simp⟩⟩
  | cons word ws ih =>
    cases ws with
    | nil =>
      rw [List.intercalate_singleton, splits_run_word_iff, findsInOrder_cons]
      simp only [splits_run, FindsInOrder.nil]
    | cons word' ws =>
      have hsplit : '%' :: ['%'].intercalate (word :: word' :: ws) ++ ['%'] =
          '%' :: word ++ ('%' :: ['%'].intercalate (word' :: ws) ++ ['%']) := by
        simp [List.intercalate_cons_cons]
      rw [hsplit, splits_run_word_iff, findsInOrder_cons]
      simp only [ih]

theorem FindsInOrder.before (h : FindsInOrder ws text) (piece : List Char) :
    FindsInOrder ws (piece ++ text) := by
  cases h with
  | nil => exact .nil _
  | cons before hword hrest =>
    rw [← List.append_assoc, ← List.append_assoc]
    exact .cons (piece ++ before) hword hrest

/-- Words that are found in a text have no more of a letter than the text has. -/
theorem FindsInOrder.countP_le {k : Char} (hrun : foldChar '%' ≠ k) (hone : foldChar '_' ≠ k)
    (h : FindsInOrder ws text) :
    ws.flatten.countP (foldChar · = k) ≤ text.countP (foldChar · = k) := by
  induction h with
  | nil => exact Nat.zero_le _
  | cons before hword _ ih =>
    have hhere := hword.countP_le hrun hone
    simp only [List.flatten_cons, List.countP_append]
    omega

theorem FindsInOrder.count_le {y : Char} (hy : Lone y) (h : FindsInOrder ws text) :
    ws.flatten.count y ≤ text.count y := by
  rw [← hy.countP_eq, ← hy.countP_eq]
  exact h.countP_le (hy.foldChar_ne (by decide)) (hy.foldChar_ne (by decide))

end Like

/-! The words of a guess -/

/-- The part of a name that is left out of a guess. -/
def article : List Char := [' ', 't', 'h', 'e', ' ']

/-- What a character of a name becomes in a guess. -/
def blur (c : Char) : Char :=
  blurChar (if c == ',' then ' ' else c)

def dropArticles (cs : List Char) : List Char :=
  replaceChars article [' '] cs

def blurWords (cs : List Char) : List (List Char) :=
  words (cs.map blur)

/-- The words that a guess looks for. -/
def guessWords (cs : List Char) : List (List Char) :=
  blurWords (dropArticles (' ' :: lowerChars cs ++ [' ']))

theorem toList_guessPattern (name : String) : (guessPattern name).toList =
    '%' :: ['%'].intercalate (guessWords name.toList) ++ ['%'] := by
  simp only [guessPattern, Text.join, String.toList_append, String.toList_intercalate, List.map_map]
  have hwords : (String.toList ∘ String.ofList) = id := funext fun _ => String.toList_ofList
  rw [hwords, List.map_id]
  rfl

theorem isMatch_guessPattern_iff_finds {name text : String} :
    Like.isMatch (guessPattern name) text ↔
      Like.FindsInOrder (guessWords name.toList) text.toList := by
  rw [Like.isMatch_iff_splits, toList_guessPattern, Like.splits_intercalate_iff]

/-! Characters in a guess -/

theorem blur_of_isBlank {b : Char} (h : isBlank b) : blur b = b := by
  have hall : ∀ n ∈ blankCodes, blur (Char.ofNat n) = Char.ofNat n := by decide
  obtain ⟨n, hn, rfl⟩ := exists_code_of_isBlank h
  exact hall n hn

theorem blur_of_far {c : Char} (h : 0x80 ≤ c.toNat) : blur c = c := by
  have hne : ∀ x : Char, x.toNat < 0x80 → c ≠ x := by
    rintro x hx rfl
    omega
  have hmark : isAsciiPunctuation c = false := by
    simp only [isAsciiPunctuation, Bool.or_eq_false_iff, Bool.and_eq_false_iff, decide_eq_false_iff_not]
    omega
  have hvowel : isVowel c = false := by
    simp [isVowel, hne]
  simp [blur, blurChar, hmark, hvowel, hne]

/-- A character of a guess that is no blank stands for what is alike to the character it was made of. -/
theorem takes_blur {z t : Char} (hz : isBlank (blur z) = false) (h : alike z t) :
    Like.Takes (blur z) [t] := by
  rw [blur] at hz ⊢
  split
  · rename_i hcomma
    rw [if_pos hcomma] at hz
    cases hz
  · rw [blurChar]
    split
    · exact .anyOne t
    · exact .of_alike h

/-! A name that a guess finds -/

/-- The text has, in order, what is alike to the characters, and anything where they are blank. -/
inductive Covers : List Char → List Char → Prop
  | nil : Covers [] []
  | letter {z t : Char} {cs text : List Char} (h : alike z t) (hrest : Covers cs text) :
      Covers (z :: cs) (t :: text)
  | gap {b : Char} {cs text : List Char} (hb : isBlank b) (piece : List Char)
      (hrest : Covers cs text) : Covers (b :: cs) (piece ++ text)

variable {cs first last text : List Char}

theorem covers_of_alike (h : List.Forall₂ (fun z t => alike z t) cs text) : Covers cs text := by
  induction h with
  | nil => exact .nil
  | cons halike _ ih => exact .letter halike ih

theorem Covers.concat (h : Covers cs text) {b : Char} (hb : isBlank b) : Covers (cs ++ [b]) text := by
  induction h with
  | nil => exact .gap hb [] .nil
  | letter halike _ ih => exact .letter halike ih
  | gap hblank piece _ ih => exact .gap hblank piece ih

theorem Covers.drop (h : Covers (first ++ last) text) :
    ∃ piece rest, Covers last rest ∧ text = piece ++ rest := by
  induction first generalizing text with
  | nil => exact ⟨[], text, h, rfl⟩
  | cons z first ih =>
    cases h with
    | letter _ hrest =>
      obtain ⟨piece, rest, hlast, rfl⟩ := ih hrest
      exact ⟨_ :: piece, rest, hlast, rfl⟩
    | gap _ piece hrest =>
      obtain ⟨piece', rest, hlast, rfl⟩ := ih hrest
      exact ⟨piece ++ piece', rest, hlast, by simp⟩

/-- A blank in the place of some part leaves more room. -/
theorem Covers.replaceChars {old : List Char} (hne : old ≠ []) {b : Char} (hb : isBlank b)
    (h : Covers cs text) : Covers (replaceChars old [b] cs) text := by
  induction cs using replaced_induction hne generalizing text with
  | nil => exact h
  | found cs ih =>
    obtain ⟨piece, rest, hrest, rfl⟩ := h.drop
    rw [replaceChars_found hne]
    exact .gap hb piece (ih hrest)
  | kept c cs hkept ih =>
    rw [replaceChars_kept hkept]
    cases h with
    | letter halike hrest => exact .letter halike (ih hrest)
    | gap hblank piece hrest => exact .gap hblank piece (ih hrest)

/-- A word ends at a blank, and at a comma that becomes one. -/
theorem finds_wordsFrom_gap {b : Char} {word part : List Char} (hb : isBlank (blur b))
    (hword : Like.Splits word.reverse part) (piece : List Char)
    (hrest : Like.FindsInOrder (wordsFrom [] (cs.map blur)) text) :
    Like.FindsInOrder (wordsFrom word ((b :: cs).map blur)) (part ++ (piece ++ text)) := by
  rw [List.map_cons, wordsFrom, if_pos hb]
  split
  · exact (hrest.before piece).before part
  · exact .cons [] hword (hrest.before piece)

/-- By induction on what is read, with the part of the text that the word being read stands for. -/
theorem Covers.finds_wordsFrom (h : Covers cs text) {word part : List Char}
    (hword : Like.Splits word.reverse part) :
    Like.FindsInOrder (wordsFrom word (cs.map blur)) (part ++ text) := by
  have hstart : Like.Splits ([] : List Char).reverse [] := Like.splits_nil.mpr rfl
  induction h generalizing word part with
  | nil =>
    rw [List.map_nil, wordsFrom]
    split
    · exact .nil _
    · exact .cons [] hword (.nil [])
  | @letter z t cs text halike _ ih =>
    by_cases hz : isBlank (blur z)
    · exact finds_wordsFrom_gap hz hword [t] (ih hstart)
    · have htakes := takes_blur (by simpa using hz) halike
      rw [List.map_cons, wordsFrom, if_neg hz, List.append_cons]
      refine ih ?_
      rw [List.reverse_cons, Like.splits_append]
      exact ⟨part, [t], hword,
        Like.splits_cons.mpr ⟨[t], [], htakes, Like.splits_nil.mpr rfl, rfl⟩, rfl⟩
  | gap hb piece _ ih =>
    rw [← blur_of_isBlank hb] at hb
    exact finds_wordsFrom_gap hb hword piece (ih hstart)

theorem Covers.finds_words (h : Covers cs text) : Like.FindsInOrder (blurWords cs) text := by
  have hstart : Like.Splits ([] : List Char).reverse [] := Like.splits_nil.mpr rfl
  exact h.finds_wordsFrom hstart

theorem finds_guessWords (h : ∀ c ∈ cs, LowersAlike c) :
    Like.FindsInOrder (guessWords cs) cs := by
  have hlower : Covers (lowerChars cs ++ [' ']) cs := (covers_of_alike (alike_lowerChars h)).concat rfl
  have hspaced : Covers (' ' :: lowerChars cs ++ [' ']) cs := .gap rfl [] hlower
  exact (hspaced.replaceChars (by decide) rfl).finds_words

/-- A character that is kept and not blank is in the words of a guess as often as in lower case. -/
theorem count_le_guessWords {y : Char} (hy : Lone y) (cs : List Char) :
    (lowerChars cs).count y ≤ (guessWords cs).flatten.count y := by
  have harticle : y ∉ article := by
    have hall : article.all (·.toNat < 0x80) := by decide
    intro hmem
    have hnear := List.all_eq_true.mp hall y hmem
    have hfar := hy.far
    simp only [decide_eq_true_eq] at hnear
    omega
  have hkept (cs : List Char) : (cs.filter (!isBlank ·)).count y = cs.count y :=
    List.count_filter (by simp [hy.notBlank])
  calc (lowerChars cs).count y
      ≤ (' ' :: lowerChars cs ++ [' ']).count y :=
        ((List.sublist_append_left _ _).trans (List.sublist_cons_self _ _)).count_le y
    _ ≤ (dropArticles (' ' :: lowerChars cs ++ [' '])).count y :=
        count_le_replaceChars (by decide) harticle _ _
    _ ≤ ((dropArticles (' ' :: lowerChars cs ++ [' '])).map blur).count (blur y) :=
        List.count_le_count_map
    _ = (guessWords cs).flatten.count y := by
        rw [blur_of_far hy.far, guessWords, blurWords, flatten_words, hkept]

/-- The guess of a name matches the name exactly when its characters are alike to their lower-case
forms: any other one brings a character into the guess that the name does not have as often. -/
theorem isMatch_guessPattern_self_iff {name : String} :
    Like.isMatch (guessPattern name) name ↔ ∀ c ∈ name.toList, LowersAlike c := by
  rw [isMatch_guessPattern_iff_finds]
  exact ⟨fun h => lowersAlike_of_count_le fun y hy =>
    (count_le_guessWords hy name.toList).trans (h.count_le hy), finds_guessWords⟩

end CardBinder
