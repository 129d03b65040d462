import CardBinder.Text.EmojiTable
import CardBinder.Text.WidthTable

/-! What a character learns, for its width on a terminal, from the text that follows it. -/

namespace CardBinder.Text

/-- A variation selector that still waits for its character. -/
inductive Selector where
  | none
  | picture
  | text
  | wideQuote
  deriving DecidableEq, Repr

/-- The signs right behind, as far as what stands before them can join them. -/
inductive Joint where
  | plain
  | lineFeed
  | emoji
  | skinTone
  | flagLetter
  | flagLetters
  | joinedEmoji
  | joinedKeycap
  | joinedFlagLetter
  | joinedFlagEven
  | joinedFlagOdd
  | tagEnd
  | tagLetters (n : Nat)
  | tagDigits (n : Nat)
  | kiratVowelE
  | kiratVowelAi
  | alef
  | lamed (joined : Bool)
  | ya (joined : Bool)
  | iYa
  | tifinagh (joined : Bool)
  | tifinaghJoiner
  | lisuTone
  | orkhonI (joined : Bool)
  | khmerLetter
  deriving DecidableEq, Repr

structure Ahead where
  selector : Selector := .none
  joint : Joint := .plain
  deriving DecidableEq, Repr

namespace Joint

/-- The letters whose joints a selector between them does not break. -/
def isLetter : Joint → Bool
  | .alef | .lamed _ | .ya _ | .iYa | .tifinagh _ | .tifinaghJoiner | .lisuTone | .orkhonI _ | .khmerLetter => true
  | _ => false

/-- An emoji behind a joiner: a picture before it costs nothing. -/
def takesPicture (j : Joint) : Bool :=
  j == .joinedEmoji || j == .joinedKeycap

/-- The joint that a zero-width joiner makes of this one. -/
def join? : Joint → Option Joint
  | .emoji | .skinTone | .flagLetters | .joinedFlagEven | .joinedFlagOdd => some .joinedEmoji
  | .lamed _ => some (.lamed true)
  | .ya _ => some (.ya true)
  | .tifinagh _ => some (.tifinagh true)
  | .orkhonI _ => some (.orkhonI true)
  | .iYa => some .iYa
  | .tifinaghJoiner => some .tifinaghJoiner
  | .lisuTone => some .lisuTone
  | .khmerLetter => some .khmerLetter
  | _ => none

end Joint

def joiner : Char := '\u200d'
def pictureSelector : Char := '\ufe0f'
def textSelector : Char := '\ufe0e'
def quoteSelector : Char := '\ufe01'

def inRange (first last : Nat) (c : Char) : Bool :=
  first ≤ c.toNat && c.toNat ≤ last

def isFlagLetter (c : Char) : Bool := inRange 0x1F1E6 0x1F1FF c
def isSkinTone (c : Char) : Bool := inRange 0x1F3FB 0x1F3FF c
def isTagLetter (c : Char) : Bool := inRange 0xE0061 0xE007A c
def isTagDigit (c : Char) : Bool := inRange 0xE0030 0xE0039 c
def isTifinaghConsonant (c : Char) : Bool := inRange 0x2D31 0x2D65 c || c == '\u2d6f'
def isCurlyQuote (c : Char) : Bool := c == '\u2018' || c == '\u2019' || c == '\u201c' || c == '\u201d'

def isAlef : Char → Bool :=
  inRanges [⟨0x622, 0x623⟩, ⟨0x625, 0x625⟩, ⟨0x627, 0x627⟩, ⟨0x671, 0x673⟩, ⟨0x675, 0x675⟩, ⟨0x773, 0x774⟩,
    ⟨0x870, 0x882⟩]

def isLam : Char → Bool :=
  inRanges [⟨0x644, 0x644⟩, ⟨0x6B5, 0x6B8⟩, ⟨0x76A, 0x76A⟩, ⟨0x8A6, 0x8A6⟩, ⟨0x8C7, 0x8C7⟩]

/-- Khmer letters that have a form below another letter. -/
def isKhmerLetter : Char → Bool :=
  inRanges [⟨0x1780, 0x1782⟩, ⟨0x1784, 0x1787⟩, ⟨0x1789, 0x178C⟩, ⟨0x178E, 0x1793⟩, ⟨0x1795, 0x1798⟩,
    ⟨0x179B, 0x179D⟩, ⟨0x17A0, 0x17A0⟩, ⟨0x17A2, 0x17A2⟩, ⟨0x17A7, 0x17A7⟩, ⟨0x17AB, 0x17AC⟩, ⟨0x17AF, 0x17AF⟩]

/-- Marks that no one sees and that no ligature minds. -/
def isUnseenMark : Char → Bool :=
  inRanges [⟨0x34F, 0x34F⟩, ⟨0x17B4, 0x17B5⟩, ⟨0x180B, 0x180D⟩, ⟨0x180F, 0x180F⟩, ⟨0xFE00, 0xFE0F⟩,
    ⟨0xE0100, 0xE01EF⟩]

def isZeroWidth (c : Char) : Bool :=
  inRanges zeroWidthRanges c

/-- The joint that a character offers by itself. -/
def Joint.of (c : Char) : Joint :=
  if c.toNat ≤ 0xA0 then (if c == '\n' then .lineFeed else .plain)
  else if c == '\u05dc' then .lamed false
  else if isAlef c then .alef
  else if isKhmerLetter c then .khmerLetter
  else if c == '\u1a10' then .ya false
  else if isTifinaghConsonant c then .tifinagh false
  else if c == '\ua4fc' || c == '\ua4fd' then .lisuTone
  else if c.toNat == 0x10C03 then .orkhonI false
  else if c.toNat == 0x16D67 then .kiratVowelE
  else if c.toNat == 0x16D68 then .kiratVowelAi
  else if isFlagLetter c then .flagLetter
  else if isSkinTone c then .skinTone
  else if inRanges emojiRanges c then .emoji
  else .plain

/-- A Khmer sign that is as wide as three letters. -/
def beyyal : Char := '\u17d8'

/-- The columns of a character that stands alone. -/
def charWidth (c : Char) : Nat :=
  if c.toNat ≤ 0xA0 then 1
  else if c == beyyal then 3
  else if isZeroWidth c then 0
  else if inRanges wideRanges c || isSkinTone c || inRanges emojiRanges c then 2
  else 1

namespace Ahead

/-- The text ahead begins with a selector; a joint of letters outlasts it. -/
def select (s : Selector) (a : Ahead) : Ahead :=
  if a.joint.isLetter || (s == .picture && a.joint.takesPicture) then { a with selector := s } else { selector := s }

/-- The joint that is left once the selector has met a character it says nothing about. -/
def bareJoint (a : Ahead) : Joint :=
  if a.selector == .none || a.joint.isLetter then a.joint else .plain

/-- A character by itself. -/
def alone (c : Char) : Int × Ahead :=
  let selector : Selector :=
    if c == pictureSelector then .picture else if c == textSelector then .text
    else if c == quoteSelector then .wideQuote else .none
  (charWidth c, { selector, joint := Joint.of c })

/-- The columns that `c` adds by joining what follows it, and the joint that it leaves. -/
def joined? (c : Char) : Joint → Option (Int × Joint)
  | .lineFeed => if c == '\r' then some (0, .plain) else none
  | .alef =>
    if isLam c then some (0, .plain)
    else if isZeroWidth c && !inRanges joinBreakingRanges c then some (0, .alef) else none
  | .lamed true => if c == '\u05d0' then some (0, .plain) else none
  | .khmerLetter => if c == '\u17d2' then some (-1, .plain) else none
  | .ya true => if c == '\u1a17' then some (0, .iYa) else none
  | .iYa => if c == '\u1a15' then some (0, .plain) else none
  | .tifinagh joined =>
    if c == '\u2d7f' then some (1, .tifinaghJoiner)
    else if joined && isTifinaghConsonant c then some (0, .plain) else none
  | .tifinaghJoiner => if isTifinaghConsonant c then some (-1, .plain) else none
  | .lisuTone => if inRange 0xA4F8 0xA4FB c then some (0, .plain) else none
  | .orkhonI true => if c.toNat == 0x10C32 then some (0, .plain) else none
  | .skinTone => if inRanges skinToneRanges c then some (0, .emoji) else none
  | .flagLetter | .flagLetters => if isFlagLetter c then some (1, .flagLetters) else none
  | .joinedEmoji =>
    if c == '\u20e3' then some (0, .joinedKeycap)
    else if isFlagLetter c then some (1, .joinedFlagLetter)
    else if isSkinTone c then some (0, .skinTone)
    else if c.toNat == 0xE007F then some (0, .tagEnd)
    else if inRanges emojiRanges c then some (0, .emoji)
    else none
  | .joinedFlagLetter | .joinedFlagOdd => if isFlagLetter c then some (-1, .joinedFlagEven) else none
  | .joinedFlagEven => if isFlagLetter c then some (3, .joinedFlagOdd) else none
  | .tagEnd =>
    if isTagLetter c then some (0, .tagLetters 1) else if isTagDigit c then some (0, .tagDigits 1) else none
  | .tagLetters n =>
    if isTagLetter c && n < 6 then some (0, .tagLetters (n + 1))
    else if isTagDigit c && n < 5 then some (0, .tagDigits 1)
    else if c.toNat == 0x1F3F4 && 3 ≤ n then some (0, .emoji)
    else none
  | .tagDigits n =>
    if isTagDigit c && n < 3 then some (0, .tagDigits (n + 1))
    else if c.toNat == 0x1F3F4 && n == 3 then some (0, .emoji)
    else none
  | .kiratVowelE =>
    if c.toNat == 0x16D63 || c.toNat == 0x16D69 then some (0, .plain)
    else if c.toNat == 0x16D67 then some (0, .kiratVowelAi)
    else if c.toNat == 0x16D68 then some (1, .kiratVowelE)
    else none
  | .kiratVowelAi => if c.toNat == 0x16D63 then some (0, .plain) else none
  | _ => none

/-- The columns of `c`, which stands before a joint with no selector between. -/
def meet (c : Char) (j : Joint) : Int × Ahead :=
  match (if c == joiner then j.join? else none) with
  | some k => (0, { joint := k })
  | none =>
    if j.isLetter && j != .alef && isUnseenMark c then (0, { joint := j })
    else match joined? c j with
    | some (w, k) => (w, { joint := k })
    | none => alone c

/-- The columns that `c` adds before the text ahead, and the text ahead of what stands before `c`. -/
def step (c : Char) (a : Ahead) : Int × Ahead :=
  if a.selector == .picture && inRanges pictureSelectableRanges c then
    (if a.joint.takesPicture then 0 else 2, { joint := .emoji })
  else if a.selector == .wideQuote && isCurlyQuote c then (2, {})
  else if c == pictureSelector then (0, a.select .picture)
  else if c == textSelector then (0, a.select .text)
  else if c == quoteSelector then (0, a.select .wideQuote)
  else if a.selector == .text && inRanges textSelectableRanges c then (1, {})
  else meet c a.bareJoint

end Ahead

end CardBinder.Text
