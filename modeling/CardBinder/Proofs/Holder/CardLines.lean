import CardBinder.Proofs.Holder.CardLine
import CardBinder.Proofs.Holder.Staging

/-! What a deck list comes to, whatever text it is: every line that is about a card stages its copies,
unless a number cannot be read as a count. -/

namespace CardBinder
variable {line digits : List Char} {h : Holder} {text : String}

namespace DeckLine

def printing (l : DeckLine) : NamedPrinting :=
  ⟨String.ofList l.name, l.expansion.map String.ofList⟩

/-- How many copies a line stands for: the number in front, in whatever script, or one. -/
def copies (l : DeckLine) : Nat :=
  (l.count.map Text.scriptNumber).getD 1

/-- How many copies of an entry a line stands for. -/
def copiesOf (l : DeckLine) (key : NamedPrinting) : Nat :=
  if l.printing == key then l.copies else 0

/-- The number in front is written in other digits than the ASCII ones, or it is too large. -/
def Unread (l : DeckLine) : Prop :=
  ∃ digits ∈ l.count, (∃ c ∈ digits, c.isDigit = false) ∨ Text.maxCount < Text.scriptNumber digits

theorem addDeckLine_cases (h : Holder) (line : List Char) :
    (¬ (ofChars line).Unread ∧ h.addDeckLine line =
      h.add (ofChars line).copies (ofChars line).printing.name (ofChars line).printing.expansion) ∨
    (ofChars line).Unread ∧ ∃ reason, h.addDeckLine line = .error (.invalidRequest reason) := by
  rw [Holder.addDeckLine, Unread, copies]
  cases hcount : (ofChars line).count with
  | none => exact .inl ⟨by simp, rfl⟩
  | some digits =>
    obtain ⟨_, _, _, hne, _⟩ := cutCount_some (Prod.ext hcount rfl)
    have hread := fun n => Text.countOfChars?_eq_some_iff hne (n := n)
    cases hn : Text.countOfChars? digits with
    | none =>
      refine .inr ⟨⟨digits, rfl, ?_⟩, _, by simp only [hn]; rfl⟩
      by_contra hfine
      obtain ⟨hascii, hfits⟩ := not_or.mp hfine
      have hsome := (hread _).mpr ⟨rfl, Nat.le_of_not_gt hfits, by simpa using hascii⟩
      rw [hn] at hsome
      cases hsome
    | some n =>
      obtain ⟨rfl, hfits, hascii⟩ := (hread n).mp hn
      refine .inl ⟨?_, by simp only [hn]; rfl⟩
      rintro ⟨_, heq, hbad⟩
      obtain rfl := Option.some.inj heq
      rcases hbad with ⟨c, hc, hforeign⟩ | hlarge
      · rw [hascii c hc] at hforeign
        cases hforeign
      · exact absurd hfits (Nat.not_le_of_gt hlarge)

end DeckLine

namespace Holder

/-! The lines that are about cards -/

/-- What a line about the deck starts with. -/
def detailKeys : List String :=
  ["deck name", "name", "author", "created by", "description", "parent"]

def isDetail (line : List Char) : Bool :=
  match Text.cutFirstChars [':'] line with
  | some (key, _) => detailKeys.contains (canonicalName (String.ofList key))
  | none => false

/-- A line that is not blank, no comment and not about the deck. -/
def isCardLine (line : List Char) : Bool :=
  line != [] && line.head? != some '#' && !isDetail line

/-- The lines of a text that are about cards, trimmed. -/
def cardLines (text : String) : List (List Char) :=
  ((Text.splitChars '\n' text.toList).map Text.trimChars).filter isCardLine

theorem setDetail?_cases (h : Holder) (line : List Char) :
    isDetail line = false ∧ h.setDetail? line = none ∨
    isDetail line = true ∧ ∃ h', h.setDetail? line = some h' ∧ h'.entries = h.entries := by
  rw [isDetail, setDetail?]
  cases Text.cutFirstChars [':'] line with
  | none => exact .inl ⟨rfl, rfl⟩
  | some cut =>
    obtain ⟨key, value⟩ := cut
    simp only [Option.bind_eq_bind, Option.bind_some, detailKeys, List.contains_eq_mem,
      List.mem_cons, List.not_mem_nil, or_false]
    split <;> simp_all

theorem addLine_of_cardLine (hcard : isCardLine line = true) :
    h.addLine line = h.addDeckLine line := by
  simp only [isCardLine, Bool.and_eq_true, bne_iff_ne, Bool.not_eq_true'] at hcard
  obtain ⟨⟨hne, hcomment⟩, hdetail⟩ := hcard
  rw [addLine]
  · rcases h.setDetail?_cases line with ⟨_, hnone⟩ | ⟨hyes, _⟩
    · rw [hnone]
    · rw [hdetail] at hyes
      cases hyes
  · exact hne
  · rintro rest rfl
    exact hcomment rfl

theorem addLine_of_other (hother : isCardLine line = false) :
    ∃ h', h.addLine line = .ok h' ∧ h'.entries = h.entries := by
  rw [addLine.eq_def]
  split
  · exact ⟨h, rfl, rfl⟩
  · exact ⟨h, rfl, rfl⟩
  · rename_i hne hcomment
    rcases h.setDetail?_cases line with ⟨hno, _⟩ | ⟨_, h', hsome, hentries⟩
    · have hhead : line.head? ≠ some '#' := fun hhead => by
        obtain ⟨rest, hrest⟩ := List.head?_eq_some_iff.mp hhead
        exact hcomment rest hrest
      simp [isCardLine, hno, hhead] at hother
      exact absurd hother hne
    · rw [hsome]
      exact ⟨h', rfl, hentries⟩

theorem bare_of_cardLine (hline : line ∈ cardLines text) : Text.Bare line := by
  obtain ⟨hmem, hcard⟩ := List.mem_filter.mp hline
  obtain ⟨written, _, rfl⟩ := List.mem_map.mp hmem
  refine Text.bare_of_trim (Text.trimChars_trimChars written) ?_
  intro hempty
  rw [hempty] at hcard
  cases hcard

/-! What they come to -/

/-- How many copies of an entry the card lines of a text come to. -/
def copiesIn (text : String) (key : NamedPrinting) : Nat :=
  countSum ((cardLines text).map fun line => (DeckLine.ofChars line).copiesOf key)

/-- A card line whose number is too large for a count, or an entry with too many copies. -/
def TooMany (text : String) : Prop :=
  (∃ line ∈ cardLines text, ∃ digits, DeckLine.Leads digits line ∧
    Text.maxCount < Text.scriptNumber digits) ∨
  ∃ key, Text.maxCount < copiesIn text key

/-- A card line whose number is not written in ASCII digits. -/
def HasForeignNumber (text : String) : Prop :=
  ∃ line ∈ cardLines text, ∃ digits, DeckLine.Leads digits line ∧ ∃ c ∈ digits, c.isDigit = false

/-- The holder has what the card lines of the text say, and no line is left out. -/
structure Says (text : String) (h : Holder) : Prop where
  named : ∀ line ∈ cardLines text,
    (DeckLine.ofChars line).name ≠ [] ∧ (DeckLine.ofChars line).name <:+: line
  numbered : ∀ line ∈ cardLines text, ∀ digits, DeckLine.Leads digits line →
    (DeckLine.ofChars line).copies = Text.scriptNumber digits
  single : ∀ line ∈ cardLines text, (¬ ∃ digits, DeckLine.Leads digits line) →
    (DeckLine.ofChars line).copies = 1
  entries : ∀ key n, (key, n) ∈ h.entries.entries ↔ n = copiesIn text key ∧ 0 < n
  total : h.size =
    countSum ((cardLines text).map fun line => (DeckLine.ofChars line).copies)

theorem addLine_cases (hw : h.Within) (line : List Char) :
    (¬ (isCardLine line ∧ (DeckLine.ofChars line).Unread) ∧ ∃ h', h.addLine line = .ok h' ∧
      Stages h (fun key => if isCardLine line then (DeckLine.ofChars line).copiesOf key else 0)
        (if isCardLine line then (DeckLine.ofChars line).copies else 0) h') ∨
    (isCardLine line ∧ (DeckLine.ofChars line).Unread ∨
        ∃ key, Text.maxCount < h.entries.count key +
          if isCardLine line then (DeckLine.ofChars line).copiesOf key else 0) ∧
      ∃ reason, h.addLine line = .error (.invalidRequest reason) := by
  cases hcard : isCardLine line with
  | false =>
    obtain ⟨h', hok, hentries⟩ := addLine_of_other (h := h) hcard
    refine .inl ⟨by simp, h', hok, ⟨?_, ?_⟩, ?_, ?_⟩
    · exact hentries ▸ hw.proper
    · exact hentries ▸ hw.fits
    · exact fun key => by rw [hentries]; rfl
    · rw [size, hentries]; rfl
  | true =>
    simp only [if_true, true_and]
    rw [addLine_of_cardLine hcard]
    rcases DeckLine.addDeckLine_cases h line with ⟨hread, heq⟩ | ⟨hunread, herror⟩
    · rw [heq]
      rcases hw.add_cases (DeckLine.ofChars line).copies (DeckLine.ofChars line).printing.name
        (DeckLine.ofChars line).printing.expansion with ⟨h', hok, _, hstages⟩ | ⟨hover, herror⟩
      · exact .inl ⟨hread, h', hok, hstages⟩
      · refine .inr ⟨.inr ⟨(DeckLine.ofChars line).printing, ?_⟩, herror⟩
        rwa [DeckLine.copiesOf, beq_self_eq_true, if_pos rfl]
    · exact .inr ⟨.inl hunread, herror⟩

/-- Staging the lines of a text one by one. -/
theorem ofDeckList_stages (text : String) :
    ((∀ line ∈ cardLines text, ¬ (DeckLine.ofChars line).Unread) ∧ ∃ h, ofDeckList text = .ok h ∧
      Stages empty (copiesIn text)
        (countSum ((cardLines text).map fun line => (DeckLine.ofChars line).copies)) h) ∨
    ((∃ line ∈ cardLines text, (DeckLine.ofChars line).Unread) ∨
        ∃ key, Text.maxCount < copiesIn text key) ∧
      ∃ reason, ofDeckList text = .error (.invalidRequest reason) := by
  have hmore : copiesIn text = fun key => _ := funext fun key => Tally.countSum_filter _ _ _
  simp only [hmore, cardLines, Tally.countSum_filter, List.mem_filter]
  have hlines := within_empty.foldlM_cases (fun h line hw => addLine_cases hw line)
    ((Text.splitChars '\n' text.toList).map Text.trimChars)
  rcases hlines with ⟨hread, h, hok, hstages⟩ | ⟨hover, herror⟩
  · exact .inl ⟨fun line hline hunread => hread line hline.1 ⟨hline.2, hunread⟩, h, hok, hstages⟩
  · refine .inr ⟨hover.imp ?_ ?_, herror⟩
    · rintro ⟨line, hline, hcard, hunread⟩
      exact ⟨line, ⟨hline, hcard⟩, hunread⟩
    · rintro ⟨key, hkey⟩
      have hnone : empty.entries.count key = 0 := rfl
      rw [hnone, Nat.zero_add] at hkey
      exact ⟨key, hkey⟩

theorem exists_unread_iff :
    (∃ line ∈ cardLines text, (DeckLine.ofChars line).Unread) ↔ HasForeignNumber text ∨
      ∃ line ∈ cardLines text, ∃ digits, DeckLine.Leads digits line ∧
        Text.maxCount < Text.scriptNumber digits := by
  constructor
  · rintro ⟨line, hline, digits, hcount, hbad⟩
    have hleads := (DeckLine.count_eq_some_iff (bare_of_cardLine hline)).mp hcount
    exact hbad.imp (fun hforeign => ⟨line, hline, digits, hleads, hforeign⟩)
      fun hlarge => ⟨line, hline, digits, hleads, hlarge⟩
  · rintro (⟨line, hline, digits, hleads, hforeign⟩ | ⟨line, hline, digits, hleads, hlarge⟩)
    · have hcount := (DeckLine.count_eq_some_iff (bare_of_cardLine hline)).mpr hleads
      exact ⟨line, hline, digits, hcount, .inl hforeign⟩
    · have hcount := (DeckLine.count_eq_some_iff (bare_of_cardLine hline)).mpr hleads
      exact ⟨line, hline, digits, hcount, .inr hlarge⟩

theorem copies_of_leads (hline : line ∈ cardLines text) (hleads : DeckLine.Leads digits line) :
    (DeckLine.ofChars line).copies = Text.scriptNumber digits := by
  rw [DeckLine.copies, (DeckLine.count_eq_some_iff (bare_of_cardLine hline)).mpr hleads]
  rfl

theorem Stages.says {size : Nat} (hs : Stages empty (copiesIn text) size h)
    (hsize : size = countSum ((cardLines text).map fun line => (DeckLine.ofChars line).copies)) :
    Says text h where
  named _ hline := DeckLine.name_ofChars (bare_of_cardLine hline)
  numbered _ hline _ hleads := copies_of_leads hline hleads
  single line hline hnone := by
    rw [DeckLine.copies]
    cases hcount : (DeckLine.ofChars line).count with
    | none => rfl
    | some digits =>
      exact absurd ⟨digits, (DeckLine.count_eq_some_iff (bare_of_cardLine hline)).mp hcount⟩ hnone
  entries key n := by
    have hnone : empty.entries.count key = 0 := rfl
    rw [hs.within.proper.mem_entries_iff, ← hs.within.proper.count_eq, hs.counts, hnone,
      Nat.zero_add]
  total := by
    have hnone : empty.size = 0 := rfl
    rw [hs.total, hnone, Nat.zero_add, hsize]

/-- A text is refused for a number or for too many copies, or the holder has what its lines say. -/
theorem ofDeckList_cases (text : String) :
    ¬ (TooMany text ∨ HasForeignNumber text) ∧ (∃ h, ofDeckList text = .ok h ∧ Says text h) ∨
    (TooMany text ∨ HasForeignNumber text) ∧
      ∃ reason, ofDeckList text = .error (.invalidRequest reason) := by
  have hunread : (∃ line ∈ cardLines text, (DeckLine.ofChars line).Unread) ∨
      (∃ key, Text.maxCount < copiesIn text key) ↔ TooMany text ∨ HasForeignNumber text :=
    (or_congr_left exists_unread_iff).trans (or_assoc.trans or_comm)
  rcases ofDeckList_stages text with ⟨hread, h, hok, hstages⟩ | ⟨hover, herror⟩
  · refine .inl ⟨?_, h, hok, hstages.says rfl⟩
    rw [← hunread]
    rintro (⟨line, hline, hbad⟩ | ⟨key, hmany⟩)
    · exact hread line hline hbad
    · have hfits := hstages.within.fits key
      rw [hstages.counts] at hfits
      omega
  · exact .inr ⟨hunread.mp hover, herror⟩

/-- A text is refused only for counts that are too large, and else the holder has what its lines say. -/
structure OnlyTooManyFail (text : String) : Prop where
  fails : (∃ failure, ofDeckList text = .error failure) ↔ TooMany text
  reads : ¬ TooMany text → ∃ h, ofDeckList text = .ok h ∧ Says text h

/-- A deck list is refused exactly when a number is too large for a count, an entry gets too many
copies, or a number is not written in ASCII digits; else no card line is lost. -/
theorem onlyTooManyFail_iff (text : String) :
    (OnlyTooManyFail text ↔ (HasForeignNumber text → TooMany text)) ∧
    (TooMany text ∨ HasForeignNumber text →
      ∃ reason, ofDeckList text = .error (.invalidRequest reason)) ∧
    (¬ (TooMany text ∨ HasForeignNumber text) → ∃ h, ofDeckList text = .ok h ∧ Says text h) := by
  rcases ofDeckList_cases text with ⟨hfine, h, hok, hsays⟩ | ⟨hbad, reason, herror⟩
  · have hread : ¬ ∃ failure, ofDeckList text = .error failure := by
      rintro ⟨failure, herror⟩
      rw [hok] at herror
      cases herror
    refine ⟨⟨?_, ?_⟩, fun hbad => absurd hbad hfine, fun _ => ⟨h, hok, hsays⟩⟩
    · exact fun _ hforeign => absurd (.inr hforeign) hfine
    · intro _
      exact ⟨iff_of_false hread fun hmany => hfine (.inl hmany), fun _ => ⟨h, hok, hsays⟩⟩
  · refine ⟨⟨?_, ?_⟩, fun _ => ⟨reason, herror⟩, fun hfine => absurd hbad hfine⟩
    · exact fun hclaim _ => hclaim.fails.mp ⟨_, herror⟩
    · intro hforeign
      have hmany : TooMany text := hbad.elim id hforeign
      exact ⟨iff_of_true ⟨_, herror⟩ hmany, fun hfew => absurd hmany hfew⟩

/-- Three foxes in Arabic digits are refused, though three is not too large a number. -/
theorem not_onlyTooManyFail_arabic :
    ofDeckList "٣ Fox" = .error (.invalidRequest "invalid card count in line '٣ Fox'") ∧
      ¬ TooMany "٣ Fox" ∧ ¬ OnlyTooManyFail "٣ Fox" := by
  have hrefused : ofDeckList "٣ Fox" =
      .error (.invalidRequest "invalid card count in line '٣ Fox'") := rfl
  have hlines : cardLines "٣ Fox" = ["٣ Fox".toList] := by decide +kernel
  have hthree : (DeckLine.ofChars "٣ Fox".toList).copies = 3 := by decide +kernel
  have hfits : 3 ≤ Text.maxCount := by decide
  have hfew : ¬ TooMany "٣ Fox" := by
    rintro (⟨line, hline, digits, hleads, hlarge⟩ | ⟨key, hmany⟩)
    · rw [← copies_of_leads hline hleads] at hlarge
      rw [hlines, List.mem_singleton] at hline
      rw [hline, hthree] at hlarge
      exact absurd hlarge (Nat.not_lt_of_le hfits)
    · rw [copiesIn, hlines, List.map_singleton, DeckLine.copiesOf, hthree] at hmany
      change Text.maxCount < (if _ then 3 else 0) + 0 at hmany
      split at hmany <;> omega
  exact ⟨hrefused, hfew, fun hclaim => hfew (hclaim.fails.mp ⟨_, hrefused⟩)⟩

end Holder
end CardBinder
