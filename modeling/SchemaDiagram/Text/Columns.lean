import SchemaDiagram.Character.Columns
import SchemaDiagram.Character.Emoji

/-!
# The width of a text in columns

How many columns of a fixed-width grid a text takes. Most characters take as many as they do on
their own, but some sequences are drawn as one: emoji with a skin tone, emoji joined to others,
selectors that ask for the emoji or the text form, and a number of ligatures. The text is
therefore measured from its end to its start, and each character is looked at together with what
follows it (`Follow`).
-/

namespace SchemaDiagram.Text

open Character

/-- What follows a character, as far as it can change the width of that character. -/
inductive Follow where
  /-- Nothing of interest. -/
  | plain
  | lineFeed
  /-- An emoji. -/
  | emoji
  /-- A skin tone. -/
  | skinTone
  /-- One regional indicator. -/
  | indicator
  /-- Two or more regional indicators. -/
  | indicators
  /-- A joiner and an emoji. -/
  | joinedEmoji
  /-- A keycap and a joined emoji. -/
  | joinedKeycap
  /-- One regional indicator and a joined emoji. -/
  | joinedIndicator
  /-- An even number of regional indicators and a joined emoji. -/
  | joinedIndicatorsEven
  /-- An odd number of regional indicators, more than one, and a joined emoji. -/
  | joinedIndicatorsOdd
  /-- So many tag letters, the end of tags and a joined emoji. -/
  | tagLetters (count : Nat)
  /-- So many tag digits, perhaps tag letters, the end of tags and a joined emoji. -/
  | tagDigits (count : Nat)
  /-- An Arabic alef. -/
  | alef
  /-- A Hebrew lamed, perhaps behind a joiner. -/
  | lamed (joined : Bool)
  /-- A Buginese ya, perhaps behind a joiner. -/
  | ya (joined : Bool)
  /-- A Buginese vowel sign i and a joined ya. -/
  | vowelYa
  /-- A Tifinagh consonant, perhaps behind a joiner. -/
  | consonant (joined : Bool)
  /-- The Tifinagh consonant joiner and a consonant. -/
  | joinerConsonant
  /-- A Lisu tone letter that is written below another. -/
  | lowTone
  /-- An Old Turkic letter orkhon i, perhaps behind a joiner. -/
  | orkhonI (joined : Bool)
  /-- A Khmer letter that can be written below another. -/
  | khmerLetter
  /-- The Kirat Rai vowel sign e. -/
  | vowelE
  /-- The Kirat Rai vowel sign ai. -/
  | vowelAi
deriving DecidableEq, Repr

/-- A selector that asks for a form of the character before it. -/
inductive Selector where
  | none
  | emojiForm
  | textForm
  | wideQuote
deriving DecidableEq, Repr

/-- What a text starts with, as far as it can change the width of a character before it. -/
structure Beginning where
  /-- What comes first, selectors aside. -/
  follow : Follow
  /-- The selector that comes first. -/
  selector : Selector
deriving DecidableEq, Repr

namespace Follow

/-- Whether a ligature with a character before may still come about across invisible marks. -/
def isLigature : Follow → Bool
  | alef | lamed _ | ya _ | vowelYa | consonant _ | joinerConsonant | lowTone | orkhonI _
  | khmerLetter | vowelE | vowelAi => true
  | _ => false

/-- The same with a joiner before it. -/
def join : Follow → Follow
  | lamed _ => lamed true
  | ya _ => ya true
  | consonant _ => consonant true
  | orkhonI _ => orkhonI true
  | f => f

end Follow

/-- Whether a code point lies between two others. -/
def isWithin (c : Char) (low high : Nat) : Bool :=
  low ≤ c.toNat && c.toNat ≤ high

/-- The Arabic letters of the shape of alef. -/
def isAlef (c : Char) : Bool :=
  c.toNat ∈ [0x622, 0x623, 0x625, 0x627, 0x671, 0x672, 0x673, 0x675, 0x773, 0x774] ||
    isWithin c 0x870 0x882

/-- The Arabic letters of the shape of lam. -/
def isLam (c : Char) : Bool :=
  c.toNat ∈ [0x644, 0x6B5, 0x6B6, 0x6B7, 0x6B8, 0x76A, 0x8A6, 0x8C7]

/-- The Khmer letters that can be written below another. -/
def isKhmerLetter (c : Char) : Bool :=
  isWithin c 0x1780 0x17AF &&
    !(c.toNat ∈ [0x1783, 0x1788, 0x178D, 0x1794, 0x1799, 0x179A, 0x179E, 0x179F, 0x17A1, 0x17A3,
      0x17A4, 0x17A5, 0x17A6, 0x17A8, 0x17A9, 0x17AA, 0x17AD, 0x17AE])

/-- The Tifinagh consonants. -/
def isConsonant (c : Char) : Bool :=
  isWithin c 0x2D31 0x2D65 || c.toNat == 0x2D6F

/-- The regional indicators, of which pairs make up flags. -/
def isIndicator (c : Char) : Bool :=
  isWithin c 0x1F1E6 0x1F1FF

/-- The marks that ligatures ignore. -/
def isInvisibleMark (c : Char) : Bool :=
  c.toNat == 0x34F || isWithin c 0x17B4 0x17B5 || isWithin c 0x180B 0x180D || c.toNat == 0x180F ||
    isWithin c 0xFE00 0xFE0F || isWithin c 0xE0100 0xE01EF

/-- The width of a character on its own. -/
def charColumns (c : Char) : Int :=
  if c.toNat ≤ 0xA0 then 1
  else if zeroColumns.contains c then 0
  else if twoColumns.contains c then 2
  else if c.toNat = 0x17D8 then 3
  else 1

/-- What a character is to the one before it. -/
def followOf (c : Char) : Follow :=
  if c = '\n' then .lineFeed
  else if c.toNat ≤ 0xA0 then .plain
  else if isWithin c 0x1F3FB 0x1F3FF then .skinTone
  else if isIndicator c then .indicator
  else if emojiPresentation.contains c then .emoji
  else if isAlef c then .alef
  else if isKhmerLetter c then .khmerLetter
  else if isConsonant c then .consonant false
  else match c.toNat with
    | 0x5DC => .lamed false
    | 0x1A10 => .ya false
    | 0xA4FC | 0xA4FD => .lowTone
    | 0x10C03 => .orkhonI false
    | 0x16D67 => .vowelE
    | 0x16D68 => .vowelAi
    | _ => .plain

/-- The width that a character adds in a sequence with what follows it, and what the sequence is to
the character before, if they make up a sequence. -/
def sequence? (c : Char) (follow : Follow) : Option (Int × Follow) :=
  let x := c.toNat
  let isJoiner := x == 0x200D
  match follow with
  | .plain => none
  | .lineFeed => none
  | .alef =>
    if isLam c then some (0, .plain)
    else if zeroColumns.contains c && joinTransparent.contains c then some (0, .alef)
    else none
  | .lamed joined => if joined && x == 0x5D0 then some (0, .plain) else none
  | .khmerLetter => if x == 0x17D2 then some (-1, .plain) else none
  | .ya joined => if joined && x == 0x1A17 then some (0, .vowelYa) else none
  | .vowelYa => if x == 0x1A15 then some (0, .plain) else none
  | .consonant joined =>
    if x == 0x2D7F then some (1, .joinerConsonant)
    else if joined && isConsonant c then some (0, .plain)
    else none
  | .joinerConsonant => if isConsonant c then some (-1, .plain) else none
  | .lowTone => if isWithin c 0xA4F8 0xA4FB then some (0, .plain) else none
  | .orkhonI joined => if joined && x == 0x10C32 then some (0, .plain) else none
  | .vowelE =>
    if x == 0x16D63 || x == 0x16D69 then some (0, .plain)
    else if x == 0x16D67 then some (0, .vowelAi)
    else if x == 0x16D68 then some (1, .vowelE)
    else none
  | .vowelAi => if x == 0x16D63 then some (0, .plain) else none
  | .skinTone =>
    if emojiModifierBase.contains c then some (0, .emoji)
    else if isJoiner then some (0, .joinedEmoji)
    else none
  | .indicator => if isIndicator c then some (1, .indicators) else none
  | .indicators =>
    if isIndicator c then some (1, .indicators)
    else if isJoiner then some (0, .joinedEmoji)
    else none
  | .emoji => if isJoiner then some (0, .joinedEmoji) else none
  | .joinedEmoji =>
    if x == 0x20E3 then some (0, .joinedKeycap)
    else if isIndicator c then some (1, .joinedIndicator)
    else match followOf c with
      | .skinTone => some (0, .skinTone)
      | .emoji => some (0, .emoji)
      | _ => if x == 0xE007F then some (0, .tagLetters 0) else none
  | .joinedKeycap => none
  | .joinedIndicator => if isIndicator c then some (-1, .joinedIndicatorsEven) else none
  | .joinedIndicatorsOdd =>
    if isIndicator c then some (-1, .joinedIndicatorsEven)
    else if isJoiner then some (0, .joinedEmoji)
    else none
  | .joinedIndicatorsEven =>
    if isIndicator c then some (3, .joinedIndicatorsOdd)
    else if isJoiner then some (0, .joinedEmoji)
    else none
  | .tagLetters count =>
    if isWithin c 0xE0061 0xE007A && count < 6 then some (0, .tagLetters (count + 1))
    else if isWithin c 0xE0030 0xE0039 && count < 5 then some (0, .tagDigits 1)
    else if x == 0x1F3F4 && 3 ≤ count then some (0, .emoji)
    else none
  | .tagDigits count =>
    if isWithin c 0xE0030 0xE0039 && count < 3 then some (0, .tagDigits (count + 1))
    else if x == 0x1F3F4 && count == 3 then some (0, .emoji)
    else none

/-- The selectors by their code points. -/
def selectorOf (c : Char) : Selector :=
  match c.toNat with
  | 0xFE0F => .emojiForm
  | 0xFE0E => .textForm
  | 0xFE01 => .wideQuote
  | _ => .none

/-- What a selector before the given beginning is to the character before it. -/
def select (s : Selector) (b : Beginning) : Beginning :=
  let kept := b.follow.isLigature ||
    (s == .emojiForm && (b.follow == .joinedEmoji || b.follow == .joinedKeycap))
  ⟨if kept then b.follow else .plain, s⟩

/-- The curly quotes, which a selector can make full-width. -/
def isCurlyQuote (c : Char) : Bool :=
  c.toNat == 0x2018 || c.toNat == 0x2019 || c.toNat == 0x201C || c.toNat == 0x201D

/-- The width that a character adds before the given beginning when no selector applies to it. -/
def stepPlain (c : Char) (follow : Follow) : Int × Beginning :=
  if c.toNat ≤ 0xA0 then
    if c = '\r' ∧ follow = .lineFeed then (0, ⟨.plain, .none⟩) else (1, ⟨followOf c, .none⟩)
  else if selectorOf c ≠ .none then (0, select (selectorOf c) ⟨follow, .none⟩)
  else if follow.isLigature ∧ follow ≠ .alef ∧ c.toNat = 0x200D then (0, ⟨follow.join, .none⟩)
  else if follow.isLigature ∧ follow ≠ .alef ∧ isInvisibleMark c then (0, ⟨follow, .none⟩)
  else match sequence? c follow with
    | some (width, follow) => (width, ⟨follow, .none⟩)
    | none => (charColumns c, ⟨followOf c, .none⟩)

/-- The width that a character adds before the given beginning, and the new beginning. -/
def step (c : Char) (b : Beginning) : Int × Beginning :=
  match b.selector with
  | .emojiForm =>
    if emojiSelectable.contains c then
      (if b.follow = .joinedEmoji ∨ b.follow = .joinedKeycap then 0 else 2, ⟨.emoji, .none⟩)
    else stepPlain c (if b.follow.isLigature then b.follow else .plain)
  | .textForm =>
    if textSelectable.contains c then (1, ⟨.plain, .none⟩) else stepPlain c b.follow
  | .wideQuote => if isCurlyQuote c then (2, ⟨.plain, .none⟩) else stepPlain c b.follow
  | .none => stepPlain c b.follow

/-- The number of columns that a text takes. -/
def columns (s : List Char) : Nat :=
  (s.foldr (fun c (total, b) =>
      let (width, b) := step c b
      (total + width, b))
    ((0 : Int), (⟨.plain, .none⟩ : Beginning))).1.toNat

end SchemaDiagram.Text
