import CardBinder.Proofs.Filter.Guess
import CardBinder.Proofs.Like.Blanks
import CardBinder.Resolver.Strategy

/-! Names whose key decides the best guess. The key of a name leaves out the blanks around it, and the
guess is made of the name as it stands: the two agree on the names whose patterns are the same with the
blanks and without them. -/

namespace CardBinder
open Text
variable {db : Database} {name name' : String}

/-! Names with one key -/

theorem findCard_of_key (h : canonicalName name = canonicalName name') :
    db.findCard name = db.findCard name' := by
  rw [Database.findCard, Database.findCard, h]

theorem guesses_of_pattern (h : guessPattern name = guessPattern name') :
    db.guesses name = db.guesses name' := by
  rw [Database.guesses, Database.guesses, Filter.guess, Filter.guess, h]

theorem guessPattern_of_words (h : guessWords name.toList = guessWords name'.toList) :
    guessPattern name = guessPattern name' := by
  rw [← String.toList_inj, toList_guessPattern, toList_guessPattern, h]

theorem guessPattern_trim_of_key (h : canonicalName name = canonicalName name') :
    guessPattern (trim name) = guessPattern (trim name') := by
  have hlower : lowerChars (trim name).toList = lowerChars (trim name').toList :=
    String.ofList_injective h
  exact guessPattern_of_words (by rw [guessWords, guessWords, hlower])

namespace Strategy

theorem guessCard_trim_of_key (h : canonicalName name = canonicalName name') :
    guessCard db (trim name) = guessCard db (trim name') := by
  have hkey : canonicalName (trim name) = canonicalName (trim name') := by simpa using h
  rw [guessCard, guessCard, findCard_of_key hkey, guesses_of_pattern (guessPattern_trim_of_key h)]

/-- In every database the best guess for the name is the one for the name without blanks around it. -/
def KeyDecides (name : String) : Prop :=
  ∀ db, guessCard db name = guessCard db (trim name)

theorem KeyDecides.guessCard_eq (h : KeyDecides name) (h' : KeyDecides name')
    (hkey : canonicalName name = canonicalName name') (db : Database) :
    guessCard db name = guessCard db name' := by
  rw [h db, h' db, guessCard_trim_of_key hkey]

end Strategy

/-! Patterns that are too large -/

theorem guesses_of_not_fits (h : ¬ Like.fits (guessPattern name)) : db.guesses name = [] := by
  refine List.eq_nil_iff_forall_not_mem.mpr fun id hid => h ?_
  obtain ⟨c, hc, _⟩ := Filter.condition_of_picks (mem_guesses_iff.mp hid)
  obtain ⟨cs, hcs, _⟩ := Outcome.map_ok hc
  obtain ⟨asked, hasked, _⟩ := Filter.conditions_ok hcs
  obtain ⟨compiled, hchecked, _⟩ := Outcome.map_ok (hasked _ List.mem_cons_self)
  exact (Like.checked_ok hchecked).1

theorem intercalate_sublist {sep : List Char} {ws ws' : List (List Char)} (h : ws.Sublist ws') :
    (sep.intercalate ws).Sublist (sep.intercalate ws') := by
  induction h with
  | slnil => exact .refl _
  | @cons ws ws' word h ih =>
    cases ws' with
    | nil =>
      rw [List.sublist_nil.mp h]
      exact List.nil_sublist _
    | cons word' ws' =>
      rw [List.intercalate_cons_cons]
      exact ih.trans (List.sublist_append_right _ _)
  | @cons_cons ws ws' word h ih =>
    cases ws' with
    | nil => rw [List.sublist_nil.mp h]
    | cons word' ws' =>
      rw [List.intercalate_cons_cons]
      cases ws with
      | nil =>
        rw [List.intercalate_singleton, List.append_assoc]
        exact List.sublist_append_left _ _
      | cons word'' ws =>
        rw [List.intercalate_cons_cons]
        exact List.Sublist.append_left ih _

theorem fits_trim (h : Like.fits (guessPattern name)) : Like.fits (guessPattern (trim name)) := by
  obtain ⟨before, after, hwords, _⟩ := exists_guessWords_eq name.toList
  refine Like.fits_of_sublist ?_ h
  rw [toList_guessPattern, toList_guessPattern, hwords, trim, String.toList_ofList]
  have hsublist : (guessWords (trimChars name.toList)).Sublist
      (before ++ guessWords (trimChars name.toList) ++ after) :=
    (List.sublist_append_right _ _).trans (List.sublist_append_left _ _)
  exact ((intercalate_sublist hsublist).cons_cons _).append_right _

/-! A card that one guess finds and the other does not -/

theorem Strategy.guessCard_single (card : Card) (hcard : card.id = ⟨0⟩)
    (hnote : ¬ Like.isMatch (Like.anywhere (lower bannedNote)) card.searchText)
    (hfind : (Filter.single card).findCard name = none) :
    Strategy.guessCard (Filter.single card) name =
      if Like.fits (guessPattern name) ∧ Like.isMatch (guessPattern name) card.name then some ⟨0⟩
      else none := by
  have hknown : (Filter.single card).card? card.id = some card := by rw [hcard]; rfl
  have hlegal := Filter.legal_single card hcard hnote
  have hmem : ⟨0⟩ ∈ (Filter.single card).guesses name ↔
      Like.fits (guessPattern name) ∧ Like.isMatch (guessPattern name) card.name := by
    rw [← hcard, mem_guesses_card_iff hknown]
    exact ⟨fun ⟨hfits, hmatch, _⟩ => ⟨hfits, hmatch⟩, fun ⟨hfits, hmatch⟩ => ⟨hfits, hmatch, hlegal⟩⟩
  have hsub : ((Filter.single card).guesses name).Sublist [⟨0⟩] := hcard ▸ guesses_sublist
  rw [guessCard, hfind]
  rcases List.sublist_singleton.mp hsub with hnone | hone
  · rw [hnone] at hmem ⊢
    rw [if_neg (by simpa using hmem)]
  · rw [hone] at hmem ⊢
    rw [if_pos (hmem.mp (List.mem_singleton_self _))]

/-- Some dashes and then the words. -/
def lookalike (n : Nat) (ws : List (List Char)) : List Char :=
  List.replicate n '-' ++ ws.flatten

/-- A card of that name, filed under no key that is shorter than the dashes. -/
def lookalikeCard (n : Nat) (ws : List (List Char)) : Card :=
  Database.cardOfRecord { name := String.ofList (lookalike n ws) }

variable {n : Nat} {ws : List (List Char)}

theorem finds_lookalike (n : Nat) (ws : List (List Char)) :
    Like.FindsInOrder ws (lookalike n ws) := by
  have hself : ∀ ws : List (List Char), Like.FindsInOrder ws ws.flatten := by
    intro ws
    induction ws with
    | nil => exact .nil _
    | cons word ws ih =>
      have hword : Like.Splits word word :=
        Like.splits_of_alike (List.forall₂_same.mpr fun c _ => alike_self c)
      exact .cons [] hword ih
  exact (hself ws).before _

/-- What is found in the dashes and words has no letters t besides those of the words. -/
theorem not_finds_lookalike {before after : List (List Char)}
    (h : 't' ∈ (before ++ after).flatten) :
    ¬ Like.FindsInOrder (before ++ ws ++ after) (lookalike n ws) := by
  intro hfinds
  have hle := hfinds.countP_le (k := foldChar 't') (by decide +kernel) (by decide +kernel)
  have hdash : (List.replicate n '-').countP (foldChar · = foldChar 't') = 0 := by
    rw [List.countP_replicate, if_neg (by decide +kernel)]
  have hmore : 0 < (before ++ after).flatten.countP (foldChar · = foldChar 't') :=
    List.countP_pos_iff.mpr ⟨'t', h, by simp⟩
  simp only [lookalike, List.flatten_append, List.countP_append, hdash] at hle hmore
  omega

theorem lookalikeCard_name (hn : 0 < n) (hws : ∀ c ∈ ws.flatten, isBlank c = false) :
    (lookalikeCard n ws).name.toList = lookalike n ws := by
  have hbare : Bare (lookalike n ws) := by
    refine bare_of_forall ?_ fun c hc => ?_
    · simp [lookalike, Nat.ne_of_gt hn]
    · rcases List.mem_append.mp hc with hc | hc
      · rw [List.eq_of_mem_replicate hc]
        rfl
      · exact hws c hc
  simp [lookalikeCard, Database.cardOfRecord, trim, hbare.trim]

theorem length_lookalikeCard (hn : 0 < n) (hws : ∀ c ∈ ws.flatten, isBlank c = false) :
    n ≤ (lookalikeCard n ws).canonicalName.length := by
  have hkept : Kept '-' := fun _ _ => rfl
  have hname := lookalikeCard_name hn hws
  have hkey : (lookalikeCard n ws).canonicalName.toList = lowerChars (lookalike n ws) := by
    rw [← hname]
    simp [lookalikeCard, Database.cardOfRecord, canonicalName, lower]
  have hcount := count_le_lowerFrom hkept [] (lookalike n ws)
  have hlength := (lowerChars (lookalike n ws)).count_le_length (a := '-')
  have hdashes : n ≤ (lookalike n ws).count '-' := by
    simp [lookalike]
  rw [← String.length_toList, hkey]
  exact (hdashes.trans hcount).trans hlength

/-- More characters than there are in any of the keys that a name is looked up under. -/
def keyRoom (name : String) : Nat :=
  let key := canonicalName name
  key.length + (articleToFront key).length + (articleToBack key).length + 1

theorem keyRoom_pos (name : String) : 0 < keyRoom name := Nat.succ_pos _

theorem findCard_lookalikeCard (hws : ∀ c ∈ ws.flatten, isBlank c = false) (name : String) :
    (Filter.single (lookalikeCard (keyRoom name) ws)).findCard name = none := by
  have hlength := length_lookalikeCard (keyRoom_pos name) hws
  have hnone : ∀ key : String, key.length < keyRoom name →
      (Filter.single (lookalikeCard (keyRoom name) ws)).cardWithKey? key = none := by
    intro key hkey
    have hne : (lookalikeCard (keyRoom name) ws).canonicalName ≠ key := by
      rintro rfl
      exact absurd hlength (Nat.not_le.mpr hkey)
    simp [Database.cardWithKey?, Filter.single, hne]
  have hkeys : (canonicalName name).length < keyRoom name ∧
      (articleToFront (canonicalName name)).length < keyRoom name ∧
      (articleToBack (canonicalName name)).length < keyRoom name := by
    simp only [keyRoom]
    omega
  rw [Database.findCard, hnone _ hkeys.1, hnone _ hkeys.2.1]
  exact hnone _ hkeys.2.2

theorem isBlank_of_mem_guessWords {cs : List Char} :
    ∀ c ∈ (guessWords cs).flatten, isBlank c = false := by
  intro c hc
  rw [guessWords, blurWords, flatten_words] at hc
  simpa using (List.mem_filter.mp hc).2

namespace Strategy

theorem guessCard_lookalikeCard (hws : ∀ c ∈ ws.flatten, isBlank c = false)
    (hkey : canonicalName name' = canonicalName name) :
    guessCard (Filter.single (lookalikeCard (keyRoom name) ws)) name' = some ⟨0⟩ ↔
      Like.fits (guessPattern name') ∧
        Like.FindsInOrder (guessWords name'.toList) (lookalike (keyRoom name) ws) := by
  have hnote : ¬ Like.isMatch (Like.anywhere (lower bannedNote)) (searchText "") := by
    decide +kernel
  have hfind := (findCard_of_key hkey).trans (findCard_lookalikeCard hws name)
  rw [guessCard_single (lookalikeCard (keyRoom name) ws) rfl hnote hfind,
    Option.ite_none_right_eq_some, isMatch_guessPattern_iff_finds,
    lookalikeCard_name (keyRoom_pos name) hws, and_iff_left rfl]

/-- What the two patterns ask for differs by articles only, and there is a card without them. -/
theorem keyDecides_iff : KeyDecides name ↔
    (Like.fits (guessPattern (trim name)) → guessPattern name = guessPattern (trim name)) := by
  constructor
  · intro h hfits
    obtain ⟨before, after, hwords, hbefore, hafter⟩ := exists_guessWords_eq name.toList
    have htrim : (trim name).toList = trimChars name.toList := String.toList_ofList
    by_cases hnone : before = [] ∧ after = []
    · obtain ⟨rfl, rfl⟩ := hnone
      exact guessPattern_of_words (by rw [hwords, htrim, List.nil_append, List.append_nil])
    · have hletter : 't' ∈ (before ++ after).flatten := by
        rcases hbefore with rfl | ⟨rfl, _⟩
        · rcases hafter with rfl | ⟨rfl, _⟩
          · exact absurd ⟨rfl, rfl⟩ hnone
          · decide
        · simp [articleWord]
      have hws : ∀ c ∈ (guessWords (trim name).toList).flatten, isBlank c = false :=
        isBlank_of_mem_guessWords
      have hasked := finds_lookalike (keyRoom name) (guessWords (trim name).toList)
      have hfound := (guessCard_lookalikeCard hws (canonicalName_trim name)).mpr ⟨hfits, hasked⟩
      have hfinds := ((guessCard_lookalikeCard hws rfl).mp ((h _).trans hfound)).2
      rw [hwords, ← htrim] at hfinds
      exact absurd hfinds (not_finds_lookalike hletter)
  · intro h db
    rw [guessCard, guessCard, findCard_of_key (canonicalName_trim name)]
    by_cases hfits : Like.fits (guessPattern (trim name))
    · rw [guesses_of_pattern (h hfits)]
    · rw [guesses_of_not_fits hfits, guesses_of_not_fits (mt fits_trim hfits)]

/-- No blanks but plain spaces, or no article at either end. -/
def PlainEnds (name : String) : Prop :=
  (∀ c ∈ name.toList, isBlank c → c = ' ') ∨
    ¬ articleEnd <+: (canonicalName name).toList ++ [' '] ∧
      ¬ articleStart <:+ ' ' :: (canonicalName name).toList

theorem plainEnds_of_all (h : name.toList.all fun c => !isBlank c || c == ' ') : PlainEnds name :=
  .inl fun c hc hblank => by simpa [hblank] using List.all_eq_true.mp h c hc

theorem PlainEnds.keyDecides (h : PlainEnds name) : KeyDecides name := by
  refine keyDecides_iff.mpr fun _ => guessPattern_of_words ?_
  obtain ⟨before, after, hwords, hbefore, hafter⟩ := exists_guessWords_eq name.toList
  have hkey : lowerChars (trimChars name.toList) = (canonicalName name).toList := by
    simp [canonicalName, lower, trim]
  rw [hkey] at hbefore hafter
  have hnone : before = [] ∧ after = [] := by
    rcases h with hplain | ⟨hstart, hend⟩
    · have hno : ¬ ∃ b ∈ name.toList, isBlank b ∧ b ≠ ' ' := by
        rintro ⟨b, hb, hblank, hne⟩
        exact hne (hplain b hb hblank)
      exact ⟨hbefore.resolve_right fun h => hno h.2.2, hafter.resolve_right fun h => hno h.2.2⟩
    · exact ⟨hbefore.resolve_right fun h => hstart h.2.1, hafter.resolve_right fun h => hend h.2.1⟩
  rw [hwords, hnone.1, hnone.2, trim, String.toList_ofList, List.nil_append, List.append_nil]

end Strategy
end CardBinder
