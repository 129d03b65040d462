import CardBinder.Holder.DeckList
import CardBinder.Proofs.Names
import CardBinder.Proofs.Text.Integer

/-! A card of a deck list is read from its line as it was written there, whatever its name looks like. -/

namespace CardBinder

namespace DeckLine
open Text (isBlank Bare)
variable {digits before inner name : List Char}

theorem cutCount_append (hne : digits ≠ []) (hdigits : ∀ c ∈ digits, c.isDigit)
    {rest : List Char} (hrest : rest.dropWhile isBlank = rest) :
    cutCount (digits ++ 'x' :: ' ' :: rest) = (some digits, rest) := by
  have hdecimal : ∀ c ∈ digits, Text.isDecimalDigit c = true :=
    fun c hc => Text.isDecimalDigit_of_isDigit (hdigits c hc)
  have hx : ¬ Text.isDecimalDigit 'x' = true := by decide
  have hdigits' : (digits ++ 'x' :: ' ' :: rest).takeWhile Text.isDecimalDigit = digits := by
    rw [List.takeWhile_append_of_pos hdecimal, List.takeWhile_cons_of_neg hx, List.append_nil]
  have hleft : (digits ++ 'x' :: ' ' :: rest).dropWhile Text.isDecimalDigit = 'x' :: ' ' :: rest := by
    rw [List.dropWhile_append_of_pos hdecimal, List.dropWhile_cons_of_neg hx]
  have hafter : afterCount? ('x' :: ' ' :: rest) = some rest := by
    have hletter : ¬ isBlank 'x' = true := by decide
    have hspace : isBlank ' ' = true := by decide
    rw [afterCount?, List.dropWhile_cons_of_neg hletter]
    simp [afterBlanks?, hspace, hrest]
  simp [cutCount, hdigits', hleft, hafter, hne]

/-! Brackets -/

theorem closedText?_concat (hne : inner ≠ []) (hplain : ']' ∉ inner) :
    closedText? (inner ++ [']']) = some inner := by
  simp [closedText?, hne, hplain]

theorem cutBracket?_append (hbefore : '[' ∉ before) (hne : inner ≠ []) (hplain : ']' ∉ inner) :
    cutBracket? (before ++ '[' :: (inner ++ [']'])) = some (before, inner) := by
  induction before with
  | nil => simp [cutBracket?, closedText?_concat hne hplain]
  | cons c before ih =>
    obtain ⟨hc, hbefore⟩ := not_or.mp (mt List.mem_cons.mpr hbefore)
    have hother : (c == '[') = false := beq_eq_false_iff_ne.mpr (Ne.symm hc)
    rw [List.cons_append, cutBracket?, hother]
    simp [ih hbefore]

theorem cutBracket?_of_notMem (h : '[' ∉ before) : cutBracket? before = none := by
  induction before with
  | nil => rfl
  | cons c before ih =>
    obtain ⟨hc, hbefore⟩ := not_or.mp (mt List.mem_cons.mpr h)
    have hother : (c == '[') = false := beq_eq_false_iff_ne.mpr (Ne.symm hc)
    rw [cutBracket?, hother]
    simp [ih hbefore]

theorem cutExpansion_of_notMem (h : '[' ∉ name) : cutExpansion name = (name, none) := by
  cases name with
  | nil => rfl
  | cons c name => rw [cutExpansion, cutBracket?_of_notMem (mt (List.mem_cons_of_mem c) h)]

/-- The bracket is found behind a name of one character at least. -/
theorem cutExpansion_append (hname : name ≠ []) (hopen : '[' ∉ name) (hne : inner ≠ [])
    (hplain : ']' ∉ inner) : cutExpansion (name ++ ' ' :: '[' :: (inner ++ [']'])) =
      (name ++ [' '], some (Text.trimChars inner)) := by
  obtain ⟨c, name, rfl⟩ := List.exists_cons_of_ne_nil hname
  have hbefore : '[' ∉ name ++ [' '] := by simpa using mt (List.mem_cons_of_mem c) hopen
  have hcut := cutBracket?_append hbefore hne hplain
  rw [List.append_assoc, List.singleton_append] at hcut
  rw [List.cons_append, cutExpansion, hcut]
  rfl

end DeckLine

/-! Lines that say something about the deck -/

/-- A name that starts with a digit is none of the words that start with a letter. -/
theorem canonicalName_ne_of_digit {c : Char} (hc : c.isDigit) (cs : List Char) {word : String}
    (hword : word.toList.head?.all fun c => !c.isDigit) :
    canonicalName (String.ofList (c :: cs)) ≠ word := by
  rintro rfl
  obtain ⟨rest, hrest⟩ : ∃ rest, Text.trimChars (c :: cs) = c :: rest :=
    List.head?_eq_some_iff.mp (Text.head?_trimChars (Text.isBlank_of_isDigit hc) cs)
  have hhead := Text.head?_lowerChars hc rest
  rw [canonicalName, Text.lower, Text.trim, String.toList_ofList, String.toList_ofList,
    String.toList_ofList, hrest, hhead] at hword
  simp [hc] at hword

theorem Text.exists_cons_of_cutFirstChars {c sep : Char} {cs key value : List Char} (hne : c ≠ sep)
    (h : Text.cutFirstChars [sep] (c :: cs) = some (key, value)) : ∃ rest, key = c :: rest := by
  have hhere : ¬ [sep].isPrefixOf (c :: cs) = true := by
    simpa [List.isPrefixOf] using Ne.symm hne
  rw [Text.cutFirstChars, if_neg hhere] at h
  obtain ⟨⟨rest, _⟩, _, heq⟩ := Option.map_eq_some_iff.mp h
  exact ⟨rest, (Prod.mk.inj heq).1.symm⟩

/-- A line that starts with a digit says nothing about the deck, whatever colons are in it. -/
theorem Holder.setDetail?_of_digit (h : Holder) {c : Char} (hc : c.isDigit) (cs : List Char) :
    h.setDetail? (c :: cs) = none := by
  have hcolon : c ≠ ':' := by
    rintro rfl
    cases hc
  rw [setDetail?]
  cases hcut : Text.cutFirstChars [':'] (c :: cs) with
  | none => rfl
  | some cut =>
    obtain ⟨key, value⟩ := cut
    obtain ⟨rest, rfl⟩ := Text.exists_cons_of_cutFirstChars hcolon hcut
    simp only [Option.bind_eq_bind, Option.bind_some]
    split
    case h_7 => rfl
    all_goals
      rename_i hkey
      exact absurd hkey (canonicalName_ne_of_digit hc rest (by decide))

/-! Entries -/

/-- Copies of a card that can be written on a line. -/
structure DeckEntry where
  count : Nat
  name : String
  expansion : Option String
  pos : 1 ≤ count
  fits : count ≤ Text.maxCount
  neat : NeatName name
  plain : '\n' ∉ name.toList ∧ '[' ∉ name.toList
  expansionNeat : ∀ x ∈ expansion, NeatName x
  expansionPlain : ∀ x ∈ expansion, '\n' ∉ x.toList ∧ ']' ∉ x.toList

namespace DeckEntry
variable (e : DeckEntry)

def printing : NamedPrinting := ⟨e.name, e.expansion⟩

/-- The expansion in brackets, as it stands behind the name. -/
def bracketed : String :=
  match e.expansion with
  | none => ""
  | some x => " [" ++ x ++ "]"

def line : String :=
  toString e.count ++ "x " ++ e.name ++ e.bracketed

theorem toList_line : e.line.toList =
    Nat.toDigits 10 e.count ++ 'x' :: ' ' :: (e.name.toList ++ e.bracketed.toList) := by
  simp [line]

/-- A line starts with the first digit of the count. -/
theorem exists_digit : ∃ c rest, c.isDigit ∧ e.line.toList = c :: rest := by
  have hcount : Nat.toDigits 10 e.count ≠ [] := Nat.toDigits_ne_nil
  obtain ⟨c, digits, hdigits⟩ := List.exists_cons_of_ne_nil hcount
  have hc : c ∈ Nat.toDigits 10 e.count := hdigits ▸ List.mem_cons_self
  exact ⟨c, _, Text.isDigit_of_mem_toDigits hc, by rw [toList_line, hdigits, List.cons_append]⟩

theorem bare_line : Text.Bare e.line.toList := by
  have hcount : Text.Bare (Nat.toDigits 10 e.count) :=
    Text.bare_of_forall Nat.toDigits_ne_nil fun _ hc =>
      Text.isBlank_of_isDigit (Text.isDigit_of_mem_toDigits hc)
  cases hexpansion : e.expansion with
  | none =>
    have hline := hcount.append e.neat.bare ['x', ' ']
    simpa [toList_line, bracketed, hexpansion] using hline
  | some x =>
    have hclose : Text.Bare [']'] :=
      Text.bare_of_forall (List.cons_ne_nil _ _) (List.forall_mem_singleton.mpr (by decide))
    have hline := hcount.append hclose ('x' :: ' ' :: e.name.toList ++ ' ' :: '[' :: x.toList)
    simpa [toList_line, bracketed, hexpansion] using hline

theorem notMem_line : '\n' ∉ e.line.toList := by
  have hdigits : '\n' ∉ Nat.toDigits 10 e.count := fun hc => by
    cases Text.isDigit_of_mem_toDigits hc
  cases hexpansion : e.expansion with
  | none => simp [toList_line, bracketed, hexpansion, hdigits, e.plain.1]
  | some x =>
    have hx := (e.expansionPlain x hexpansion).1
    simp [toList_line, bracketed, hexpansion, hdigits, e.plain.1, hx]

theorem ofChars_line : DeckLine.ofChars e.line.toList =
    ⟨some (Nat.toDigits 10 e.count), e.name.toList, e.expansion.map String.toList⟩ := by
  have hbare := e.neat.bare
  have hstart : (e.name.toList ++ e.bracketed.toList).dropWhile Text.isBlank =
      e.name.toList ++ e.bracketed.toList := by
    rw [List.dropWhile_append, hbare.start, if_neg (by simp [hbare.nonempty])]
  have hcount := DeckLine.cutCount_append Nat.toDigits_ne_nil
    (fun _ => Text.isDigit_of_mem_toDigits (n := e.count)) hstart
  rw [DeckLine.ofChars, toList_line, hcount]
  cases hexpansion : e.expansion with
  | none =>
    have hname := DeckLine.cutExpansion_of_notMem e.plain.2
    simp [bracketed, hexpansion, hname, hbare.trim]
  | some x =>
    have hx := (e.expansionNeat x hexpansion).bare
    have hname := DeckLine.cutExpansion_append hbare.nonempty e.plain.2 hx.nonempty
      (e.expansionPlain x hexpansion).2
    have hspace : Text.trimChars (e.name.toList ++ [' ']) = e.name.toList :=
      hbare.trim_concat (by decide)
    simp [bracketed, hexpansion, hname, hx.trim, hspace]

/-- A line stages just the copies that it was written for. -/
theorem addLine_line (h : Holder) :
    h.addLine (Text.trimChars e.line.toList) = h.add e.count e.name e.expansion := by
  obtain ⟨c, rest, hc, hline⟩ := e.exists_digit
  have hcount : Text.countOfChars? (Nat.toDigits 10 e.count) = some e.count := by
    rw [Text.countOfChars?, Text.natOfDigits?_toDigits, Option.bind_some, if_pos e.fits]
  have hadd : h.addDeckLine e.line.toList = h.add e.count e.name e.expansion := by
    simp only [Holder.addDeckLine, ofChars_line, hcount]
    simp [Function.comp_def]
    rfl
  have hcomment : c ≠ '#' := by
    rintro rfl
    cases hc
  rw [e.bare_line.trim, ← hadd, hline, Holder.addLine, h.setDetail?_of_digit hc]
  · exact List.cons_ne_nil c rest
  · exact fun _ heq => hcomment (List.cons.inj heq).1

end DeckEntry
end CardBinder
