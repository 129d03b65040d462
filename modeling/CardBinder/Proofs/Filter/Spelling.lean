import CardBinder.Catalog.Load
import CardBinder.Filter.Expression
import CardBinder.Proofs.Names
import CardBinder.Proofs.Rows
import CardBinder.Proofs.Text.Cut
import Mathlib.Data.List.Forall2

/-! The spellings of a filter expression: its keyword in any letter case, and blanks around the expression,
around its keyword and its values and behind the mark of the opposite. All of them are read alike. -/

namespace CardBinder

/-! Keywords -/

theorem Text.toLower_of_isBlank {c : Char} (h : isBlank c) : c.toLower = c := by
  refine dif_neg ?_
  simp only [isBlank, ge_iff_le, UInt32.le_iff_toNat_le, Bool.or_eq_true, Bool.and_eq_true,
    decide_eq_true_eq, beq_iff_eq, Char.toNat] at h ⊢
  have hA : 'A'.val.toNat = 65 := rfl
  have hZ : 'Z'.val.toNat = 90 := rfl
  omega

theorem mem_vocabulary {keyword : String} {e : FilterEntry} (h : filterEntry? keyword = some e) :
    e ∈ vocabulary ∧ Text.sameAscii e.keyword keyword :=
  ⟨List.mem_of_find?_eq_some h,
    List.find?_some (p := fun e : FilterEntry => Text.sameAscii e.keyword keyword) h⟩

/-- No two keywords of the vocabulary differ in letter case only. -/
theorem filterEntry?_of_mem {keyword : String} {e : FilterEntry} (he : e ∈ vocabulary)
    (h : Text.sameAscii e.keyword keyword) : filterEntry? keyword = some e := by
  have hnodup : (vocabulary.map fun e => e.keyword.toList.map Char.toLower).Nodup := by decide
  have hcase : e.keyword.toList.map Char.toLower = keyword.toList.map Char.toLower := by
    simpa [Text.sameAscii] using h
  exact (find?_eq_some_iff_of_nodup hnodup fun e => beq_iff_eq).mpr ⟨he, hcase⟩

/-- In any letter case, a keyword is one word without marks. -/
theorem keyword_plain {keyword : String} {e : FilterEntry} (h : filterEntry? keyword = some e) :
    keyword.toList ≠ [] ∧ ∀ c ∈ keyword.toList, c ≠ '=' ∧ c ≠ '!' ∧ Text.isBlank c = false := by
  obtain ⟨he, hsame⟩ := mem_vocabulary h
  have hcase : e.keyword.toList.map Char.toLower = keyword.toList.map Char.toLower := by
    simpa [Text.sameAscii] using hsame
  -- Small letters are all that two spellings share, so the vocabulary is checked in them.
  have hplain : ∀ e ∈ vocabulary, e.keyword.toList ≠ [] ∧
      (e.keyword.toList.map Char.toLower).all fun c => c ≠ '=' ∧ c ≠ '!' ∧ Text.isBlank c = false := by
    decide
  obtain ⟨hne, hchars⟩ := hplain e he
  refine ⟨fun hnil => hne (by simpa [hnil] using hcase), fun c hc => ?_⟩
  obtain ⟨hequals, hmark, hblank⟩ :=
    of_decide_eq_true (List.all_eq_true.mp hchars _ (hcase ▸ List.mem_map_of_mem hc))
  refine ⟨?_, ?_, ?_⟩
  · rintro rfl
    exact hequals rfl
  · rintro rfl
    exact hmark rfl
  · by_contra hc
    rw [Text.toLower_of_isBlank (by simpa using hc)] at hblank
    exact hc hblank

/-! Blanks around a text -/

namespace Text
variable {s padded : String} {c : Char}

/-- The second text is the first one with blanks around it. -/
def Padded (s padded : String) : Prop :=
  ∃ left right, (∀ c ∈ left, isBlank c) ∧ (∀ c ∈ right, isBlank c) ∧
    padded.toList = left ++ s.toList ++ right

theorem Padded.refl (s : String) : Padded s s :=
  ⟨[], [], by simp, by simp, by simp⟩

theorem Padded.trimChars_eq (h : Padded s padded) : trimChars padded.toList = trimChars s.toList := by
  obtain ⟨left, right, hleft, hright, heq⟩ := h
  rw [heq, trimChars_blanks hleft hright]

theorem Padded.trim_eq (h : Padded s padded) : trim padded = trim s := by
  rw [trim, trim, h.trimChars_eq]

theorem Padded.notMem (h : Padded s padded) (hc : isBlank c = false) (hs : c ∉ s.toList) :
    c ∉ padded.toList := by
  obtain ⟨left, right, hleft, hright, heq⟩ := h
  have hblank : ∀ cs : List Char, (∀ c ∈ cs, isBlank c) → c ∉ cs :=
    fun cs hcs hmem => by simp [hcs c hmem] at hc
  simp [heq, hs, hblank left hleft, hblank right hright]

end Text

namespace FilterExpression
open Text (isBlank trimChars trimStartChars trimEndChars Padded)
variable {entry : FilterEntry} {e : FilterExpression} {keyword v text : String}
  {values texts : List String} {negated : Bool}

/-! Values -/

/-- A value as expressions can hold it. -/
structure IsValue (v : String) : Prop where
  trimmed : Text.trim v = v
  nonempty : v ≠ ""
  unbarred : '|' ∉ v.toList

instance (v : String) : Decidable (IsValue v) :=
  decidable_of_iff (Text.trim v = v ∧ v ≠ "" ∧ '|' ∉ v.toList)
    ⟨fun h => ⟨h.1, h.2.1, h.2.2⟩, fun h => ⟨h.trimmed, h.nonempty, h.unbarred⟩⟩

theorem map_trim (h : ∀ v ∈ values, IsValue v) : values.map Text.trim = values :=
  (List.map_congr_left fun v hv => (h v hv).trimmed).trans (List.map_id values)

theorem valuesOf_join (hbars : ∀ t ∈ texts, '|' ∉ t.toList) :
    valuesOf (Text.join "|" texts) = (texts.map Text.trim).filter (!·.isEmpty) := by
  rcases eq_or_ne texts [] with rfl | hne
  · rfl
  · rw [valuesOf, Text.split_join rfl hne hbars]

/-- Blanks behind the last text are its own. -/
theorem exists_join_trimEnd (texts : List String) : ∃ texts',
    trimEndChars (Text.join "|" texts).toList = (Text.join "|" texts').toList ∧
      texts'.map Text.trim = texts.map Text.trim ∧
      ((∀ t ∈ texts, '|' ∉ t.toList) → ∀ t ∈ texts', '|' ∉ t.toList) := by
  induction texts with
  | nil => exact ⟨[], rfl, rfl, id⟩
  | cons t rest ih =>
    cases rest with
    | nil =>
      have hsame : Text.trim (String.ofList (trimEndChars t.toList)) = Text.trim t := by
        have hstop : trimEndChars (trimChars t.toList) = trimChars t.toList :=
          List.rdropWhile_idempotent isBlank (trimStartChars t.toList)
        rw [Text.trim, String.toList_ofList, trimChars, Text.trimStartChars_trimEndChars, hstop,
          Text.trim]
      refine ⟨[String.ofList (trimEndChars t.toList)], ?_, ?_, ?_⟩
      · simp [Text.join]
      · rw [List.map_singleton, List.map_singleton, hsame]
      · intro hbar
        rw [List.forall_mem_singleton, String.toList_ofList]
        exact fun hmem => hbar t List.mem_cons_self ((List.rdropWhile_prefix isBlank _).subset hmem)
    | cons u rest =>
      obtain ⟨texts', hjoin, htrim, hbars⟩ := ih
      obtain ⟨t', rest', rfl⟩ := List.exists_cons_of_ne_nil
        (show texts' ≠ [] by rintro rfl; cases htrim)
      refine ⟨t :: t' :: rest', ?_, ?_, ?_⟩
      · have hbar : "|".toList = ['|'] := rfl
        simp only [Text.join, String.intercalate_cons_cons, String.toList_append, hbar,
          List.append_assoc, List.singleton_append] at hjoin ⊢
        rw [Text.trimEndChars_append_cons (by decide), hjoin]
      · rw [List.map_cons, htrim, ← List.map_cons]
      · intro h
        exact List.forall_mem_cons.mpr
          ⟨h t List.mem_cons_self, hbars fun u hu => h u (List.mem_cons_of_mem t hu)⟩

theorem trim_padded (h : List.Forall₂ Padded values texts) (hvalues : ∀ v ∈ values, IsValue v) :
    texts.map Text.trim = values ∧ ∀ t ∈ texts, '|' ∉ t.toList := by
  induction h with
  | nil => simp
  | cons hv hrest ih =>
    obtain ⟨hvalue, hvalues⟩ := List.forall_mem_cons.mp hvalues
    obtain ⟨htrim, hbars⟩ := ih hvalues
    refine ⟨?_, List.forall_mem_cons.mpr ⟨hv.notMem (by decide) hvalue.unbarred, hbars⟩⟩
    rw [List.map_cons, htrim, hv.trim_eq, hvalue.trimmed]

theorem valuesOf_padded (h : List.Forall₂ Padded values texts) (hvalues : ∀ v ∈ values, IsValue v) :
    valuesOf (String.ofList (trimEndChars (Text.join "|" texts).toList)) = values := by
  obtain ⟨texts', hjoin, htrim', hbars'⟩ := exists_join_trimEnd texts
  obtain ⟨htrim, hbars⟩ := trim_padded h hvalues
  rw [hjoin, String.ofList_toList, valuesOf_join (hbars' hbars), htrim', htrim]
  exact List.filter_eq_self.mpr fun v hv => by simpa using (hvalues v hv).nonempty

/-! Expressions -/

/-- The mark of the opposite. -/
def mark (negated : Bool) : String :=
  if negated then "!" else ""

/-- The texts of an expression. -/
inductive Spells : FilterExpression → String → Prop
  | values {negated : Bool} {keyword k text : String} {values texts : List String} :
      Padded keyword k → List.Forall₂ Padded values texts →
      Padded (mark negated ++ k ++ "=" ++ Text.join "|" texts) text →
      Spells ⟨negated, keyword, values⟩ text
  | alone {negated : Bool} {keyword k text : String} :
      Padded keyword k → Padded (mark negated ++ k) text → Spells ⟨negated, keyword, []⟩ text

theorem parse_padded {s : String} (h : Padded s text) : parse text = parse s := by
  rw [parse, parse, h.trimChars_eq]

theorem parse_mark {s : String} (h : (trimChars s.toList).head? ≠ some '!') :
    parse (mark negated ++ s) = ofBody negated (Text.trim s) := by
  cases negated with
  | true =>
    have htrim : trimChars (mark true ++ s).toList = '!' :: trimEndChars s.toList := by
      have hmark : (mark true ++ s).toList = '!' :: s.toList := by simp [mark]
      rw [hmark, trimChars, trimStartChars, List.dropWhile_cons_of_neg (by decide)]
      exact Text.trimEndChars_append_cons (by decide) [] s.toList
    rw [parse, htrim, Text.trim, ← Text.trimStartChars_trimEndChars]
    rfl
  | false =>
    have hmark : mark false ++ s = s := String.empty_append
    rw [hmark, parse]
    split
    · rename_i cs hcs
      rw [hcs] at h
      exact absurd rfl h
    · rfl

theorem ofBody_values {k rest : String} (hequals : '=' ∉ k.toList) (hk : Text.trim k ≠ "") :
    ofBody negated (k ++ "=" ++ rest) = .ok ⟨negated, Text.trim k, valuesOf rest⟩ := by
  have hcut : Text.cutFirst "=" (k ++ "=" ++ rest) = some (k, rest) :=
    Text.cutFirst_append (show "=".toList = '=' :: [] from rfl) hequals
  have hsome : (Text.trim k).isEmpty = false := by simpa using hk
  simp only [ofBody, hcut, hsome]
  rfl

theorem ofBody_alone (hequals : '=' ∉ keyword.toList) (hne : keyword ≠ "") :
    ofBody negated keyword = .ok ⟨negated, keyword, []⟩ := by
  have hcut : Text.cutFirst "=" keyword = none := Text.cutFirst_of_notMem rfl hequals
  have hsome : keyword.isEmpty = false := by simpa using hne
  simp only [ofBody, hcut, hsome]
  rfl

/-- An expression is read from every text of it. -/
theorem parse_spelled (he : filterEntry? e.keyword = some entry) (hvalues : ∀ v ∈ e.values, IsValue v)
    (h : e.Spells text) : parse text = .ok e := by
  obtain ⟨hnonempty, hchars⟩ := keyword_plain he
  have hbare : Text.Bare e.keyword.toList :=
    Text.bare_of_forall hnonempty fun c hc => (hchars c hc).2.2
  have hequals : '=' ∉ e.keyword.toList := fun hmem => (hchars _ hmem).1 rfl
  have hunmarked : ∀ rest, (e.keyword.toList ++ rest).head? ≠ some '!' := by
    obtain ⟨c, cs, hc⟩ := List.exists_cons_of_ne_nil hnonempty
    intro rest hmark
    rw [hc, List.cons_append, List.head?_cons, Option.some_inj] at hmark
    exact (hchars c (hc ▸ List.mem_cons_self)).2.1 hmark
  have htrimmed : Text.trim e.keyword = e.keyword := by
    rw [Text.trim, hbare.trim, String.ofList_toList]
  have hne : e.keyword ≠ "" := by simpa using hnonempty
  cases h with
  | @values negated keyword k text values texts hk hv htext =>
    obtain ⟨left, right, hleft, hright, hparts⟩ := hk
    have hbody : trimChars (k ++ "=" ++ Text.join "|" texts).toList =
        keyword.toList ++ (right ++ '=' :: trimEndChars (Text.join "|" texts).toList) := by
      have happend := hbare.trimChars_append_cons hleft (c := '=') (by decide) right
        (Text.join "|" texts).toList
      simpa [hparts] using happend
    -- The blanks behind the keyword stay in front of the sign, and go when the keyword is trimmed.
    have hk : Padded keyword (String.ofList (keyword.toList ++ right)) :=
      ⟨[], right, by simp, hright, by simp⟩
    have hkeyword : Text.trim (String.ofList (keyword.toList ++ right)) = keyword :=
      hk.trim_eq.trans htrimmed
    have hsplit : Text.trim (k ++ "=" ++ Text.join "|" texts) =
        String.ofList (keyword.toList ++ right) ++ "=" ++
          String.ofList (trimEndChars (Text.join "|" texts).toList) := by
      rw [Text.trim, hbody, ← String.toList_inj]
      simp
    have hplain : (trimChars (k ++ "=" ++ Text.join "|" texts).toList).head? ≠ some '!' := by
      rw [hbody]
      exact hunmarked _
    have hsome : Text.trim (String.ofList (keyword.toList ++ right)) ≠ "" := by
      rw [hkeyword]
      exact hne
    have htext' : mark negated ++ k ++ "=" ++ Text.join "|" texts =
        mark negated ++ (k ++ "=" ++ Text.join "|" texts) := by
      simp only [String.append_assoc]
    rw [parse_padded htext, htext', parse_mark hplain, hsplit,
      ofBody_values (hk.notMem (by decide) hequals) hsome, hkeyword,
      valuesOf_padded hv hvalues]
  | @alone negated keyword k text hk htext =>
    have hbody : trimChars k.toList = keyword.toList := hk.trimChars_eq.trans hbare.trim
    have hplain : (trimChars k.toList).head? ≠ some '!' := by
      rw [hbody, ← List.append_nil keyword.toList]
      exact hunmarked []
    rw [parse_padded htext, parse_mark hplain, hk.trim_eq, htrimmed, ofBody_alone hequals hne]

theorem filter_eq (he : filterEntry? e.keyword = some entry) (hvalues : ∀ v ∈ e.values, IsValue v)
    (db : Database) :
    e.filter db = (entry.build db e.values).map fun f => if e.negated then .not f else f := by
  have hbuild : buildFilter db e.keyword e.values = entry.build db e.values := by
    rw [buildFilter, he]
    simp only [map_trim hvalues]
  rw [filter, hbuild]
  cases entry.build db e.values <;> rfl

end FilterExpression

namespace Database
open FilterExpression
open Text (isBlank)

/-- Every text of an expression gives the filter that its keyword builds for its values, or the same
error: the opposite of that filter where the text is marked. -/
theorem parseFilter_spelled (db : Database) {entry : FilterEntry} {keyword text : String}
    {values : List String} {negated : Bool} (hentry : entry ∈ vocabulary)
    (hkeyword : Text.sameAscii entry.keyword keyword) (hvalues : ∀ v ∈ values, IsValue v)
    (h : Spells ⟨negated, keyword, values⟩ text) :
    db.parseFilter text =
      (entry.build db values).map fun f => if negated then .not f else f := by
  have he := filterEntry?_of_mem hentry hkeyword
  rw [parseFilter, parse_spelled (e := ⟨negated, keyword, values⟩) he hvalues h]
  exact filter_eq (e := ⟨negated, keyword, values⟩) he hvalues db

/-- Two cards of different types. -/
def pets : Database :=
  (empty.loadCatalog
    { cards := [{ name := "Dog", cardTypes := ["Ally"] }, { name := "Cat", cardTypes := ["Retainer"] }] }).1

theorem parseFilter_spelled_pets :
    pets.parseFilter " !\tcardTYPE =Ally |  Retainer\n" = .ok (.not (.related .cardType [0, 1])) ∧
    pets.parseFilter "CARDNAME= a=b ! c " = .ok (.cardName "%a=b ! c%") ∧
    pets.parseFilter "! setsInUse " = .ok (.not .inUse) ∧
    pets.parseFilter "Clan=!" = .error (.notFound (.entry .clan) "!") := by
  have hblanks : ∀ {cs : List Char}, cs.all isBlank → ∀ c ∈ cs, isBlank c := List.all_eq_true.mp
  have htypes : Spells ⟨true, "cardTYPE", ["Ally", "Retainer"]⟩ " !\tcardTYPE =Ally |  Retainer\n" :=
    .values (k := "\tcardTYPE ") ⟨['\t'], [' '], hblanks rfl, hblanks rfl, rfl⟩
      (.cons (b := "Ally ") ⟨[], [' '], hblanks rfl, hblanks rfl, rfl⟩
        (.cons (b := "  Retainer") ⟨[' ', ' '], [], hblanks rfl, hblanks rfl, rfl⟩ .nil))
      ⟨[' '], ['\n'], hblanks rfl, hblanks rfl, rfl⟩
  have hname : Spells ⟨false, "CARDNAME", ["a=b ! c"]⟩ "CARDNAME= a=b ! c " :=
    .values (.refl _) (.cons (b := " a=b ! c ") ⟨[' '], [' '], hblanks rfl, hblanks rfl, rfl⟩ .nil)
      ⟨[], [], hblanks rfl, hblanks rfl, rfl⟩
  have huse : Spells ⟨true, "setsInUse", []⟩ "! setsInUse " :=
    .alone (k := " setsInUse") ⟨[' '], [], hblanks rfl, hblanks rfl, rfl⟩
      ⟨[], [' '], hblanks rfl, hblanks rfl, rfl⟩
  have hclan : Spells ⟨false, "Clan", ["!"]⟩ "Clan=!" :=
    .values (.refl _) (.cons (.refl _) .nil) (.refl _)
  have hentry : ∀ i (h : i < vocabulary.length), vocabulary[i] ∈ vocabulary :=
    fun i h => List.getElem_mem h
  exact ⟨pets.parseFilter_spelled (hentry 0 (by decide)) (by decide) (by decide) htypes,
    pets.parseFilter_spelled (hentry 11 (by decide)) (by decide) (by decide) hname,
    pets.parseFilter_spelled (hentry 22 (by decide)) (by decide) (by decide) huse,
    pets.parseFilter_spelled (hentry 2 (by decide)) (by decide) (by decide) hclan⟩

end Database
end CardBinder
