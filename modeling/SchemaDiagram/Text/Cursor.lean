import SchemaDiagram.Text.Scan

/-!
# A cursor in a text

A `Cursor` divides a text into the characters passed and those ahead, so it always stands between
two characters. Its `offset` counts the passed ones in bytes of UTF-8. Every move but `seek` goes
forward by whole characters (`advance`). Why the readers may hold a cursor so, and not as a number of
bytes that is added to, is shown for `ByteCursor`.

`findKeyword?` looks for a keyword that stands as a whole word, and `occurrences` lists the
constructs that begin with one: after each keyword a reader tries the rest of the construct, and the
search goes on where that reader stopped.
-/

namespace SchemaDiagram

open Character

/-- A place in a text. -/
structure Cursor where
  /-- The characters before the cursor, nearest first. -/
  passed : List Char
  /-- The characters after the cursor. -/
  ahead : List Char

namespace Cursor

/-- The cursor at the start of a text. -/
def start (s : List Char) : Cursor :=
  ⟨[], s⟩

/-- The whole text. -/
def text (c : Cursor) : List Char :=
  c.passed.reverse ++ c.ahead

/-- The length of the UTF-8 encoding of a text. -/
def byteLength : List Char → Nat
  | [] => 0
  | c :: rest => c.utf8Size + byteLength rest

/-- The number of bytes before the cursor. -/
def offset (c : Cursor) : Nat :=
  byteLength c.passed

/-- Whether nothing is ahead. -/
def atEnd (c : Cursor) : Bool :=
  c.ahead.isEmpty

/-- The cursor `n` characters further on, or at the end if there are fewer. -/
def advance (c : Cursor) (n : Nat) : Cursor :=
  ⟨(c.ahead.take n).reverse ++ c.passed, c.ahead.drop n⟩

/-- The cursor at the end of the text. -/
def toEnd (c : Cursor) : Cursor :=
  c.advance c.ahead.length

/-- The cursor moved on to where only `remaining` is ahead. -/
def moveTo (c : Cursor) (remaining : List Char) : Cursor :=
  c.advance (c.ahead.length - remaining.length)

/-- The next character. -/
def peek? (c : Cursor) : Option Char :=
  c.ahead.head?

/-- Takes the next character. -/
def bump (c : Cursor) : Option Char × Cursor :=
  (c.peek?, c.advance 1)

/-- Takes the given character if it is the next one. -/
def eat (expected : Char) (c : Cursor) : Bool × Cursor :=
  if c.peek? == some expected then (true, c.advance 1) else (false, c)

/-- Takes the longest run of characters that `accepts` accepts. -/
def eatWhile (accepts : Char → Bool) (c : Cursor) : List Char × Cursor :=
  let taken := c.ahead.takeWhile accepts
  (taken, c.advance taken.length)

/-- Takes the blanks ahead, and says whether there were any. -/
def skipBlanks (c : Cursor) : Bool × Cursor :=
  let (taken, c) := c.eatWhile isBlank
  (!taken.isEmpty, c)

/-- Runs a reader on the text ahead; the cursor stays where it is when the reader fails. -/
def read? {α : Type} (reader : List Char → Option (α × List Char)) (c : Cursor) :
    Option α × Cursor :=
  match reader c.ahead with
  | some (value, remaining) => (some value, c.moveTo remaining)
  | none => (none, c)

/-- Takes an identifier. -/
def eatIdent? (c : Cursor) : Option (List Char) × Cursor :=
  c.read? Scan.ident?

/-- Takes the text before the next occurrence of `stop`, and that occurrence. -/
def eatUntil? (stop : List Char) (c : Cursor) : Option (List Char) × Cursor :=
  c.read? (Scan.until? stop)

/-- Takes a keyword if it is ahead. -/
def eatKeyword (word : List Char) (c : Cursor) : Bool × Cursor :=
  match Scan.keyword? word c.ahead with
  | some _ => (true, c.advance word.length)
  | none => (false, c)

/-- Whether `word` stands at the front of `s` as a whole word when `before` comes before it. -/
def isKeywordAt (word : List Char) (before : Option Char) (s : List Char) : Bool :=
  !before.any isIdent && (Scan.keyword? word s).isSome

/-- How many characters come before the first place in `s` where `word` stands as a whole word, if
`before` comes before `s`. A place has at least one character behind it. -/
def keywordIndex? (word : List Char) : (before : Option Char) → (s : List Char) → Option Nat
  | _, [] => none
  | before, c :: rest =>
    if isKeywordAt word before (c :: rest) then some 0
    else (keywordIndex? word (some c) rest).map (· + 1)

/-- The cursors at and behind the next place where `word` stands as a whole word. -/
def findKeyword? (word : List Char) (c : Cursor) : Option (Cursor × Cursor) :=
  (keywordIndex? word c.passed.head? c.ahead).map fun n =>
    (c.advance n, c.advance (n + word.length))

/-- The last place of `s` that is at most `limit` bytes from its start, if `passed` comes before. -/
def seekFrom (passed : List Char) : (limit : Nat) → (s : List Char) → Cursor
  | _, [] => ⟨passed, []⟩
  | limit, c :: rest =>
    if c.utf8Size ≤ limit then seekFrom (c :: passed) (limit - c.utf8Size) rest
    else ⟨passed, c :: rest⟩

/-- The cursor at an offset where a cursor in this text can be, or at the end if the text is shorter.
A cursor in bytes can also be set into a character (`ByteCursor.seek`); this one has no such place
and is set in front of the character. -/
def seek (c : Cursor) (offset : Nat) : Cursor :=
  seekFrom [] offset c.text

/-- The bytes of two texts behind each other are those of both. -/
@[simp]
theorem byteLength_append (s t : List Char) : byteLength (s ++ t) = byteLength s + byteLength t := by
  induction s with
  | nil => simp [byteLength]
  | cons c s ih =>
    simp only [List.cons_append, byteLength, ih]
    omega

/-- Advancing shortens what is ahead by the number of characters passed. -/
theorem length_ahead_advance (c : Cursor) (n : Nat) :
    (c.advance n).ahead.length = c.ahead.length - n := by
  simp [advance]

/-- A found keyword lies ahead. -/
theorem keywordIndex?_lt_length {word : List Char} {before : Option Char} {s : List Char} {n : Nat}
    (h : keywordIndex? word before s = some n) : n < s.length := by
  induction s generalizing before n with
  | nil => simp [keywordIndex?] at h
  | cons c rest ih =>
    rw [keywordIndex?] at h
    split at h
    · cases h
      simp
    · obtain ⟨m, hm, rfl⟩ := Option.map_eq_some_iff.1 h
      simpa using ih hm

/-- The search for a keyword goes forward. -/
theorem length_ahead_lt_of_findKeyword? {word : List Char} {c place behind : Cursor}
    (hword : word ≠ []) (h : c.findKeyword? word = some (place, behind)) :
    behind.ahead.length < c.ahead.length := by
  obtain ⟨n, hn, heq⟩ := Option.map_eq_some_iff.1 h
  have hlt := keywordIndex?_lt_length hn
  have hpos := List.length_pos_iff.2 hword
  cases heq
  rw [length_ahead_advance]
  omega

end Cursor

/-- A keyword that constructs begin with. -/
structure Keyword where
  /-- The letters of the keyword. -/
  letters : List Char
  /-- A keyword has at least one letter. -/
  nonempty : letters ≠ [] := by decide

/-- A construct found in a text. -/
structure Occurrence (α : Type) where
  /-- The place of its keyword. -/
  start : Cursor
  /-- The place just behind it. -/
  stop : Cursor
  /-- What was read. -/
  value : α

namespace Cursor

/-- The constructs that begin with `keyword`, from left to right. Behind each keyword `reader`
reads the rest of the construct; whether or not there is one, the search goes on where `reader`
stopped. -/
def occurrences {α : Type} (keyword : Keyword) (reader : List Char → Option α × List Char)
    (c : Cursor) : List (Occurrence α) :=
  match h : c.findKeyword? keyword.letters with
  | none => []
  | some (start, behind) =>
    let (found, remaining) := reader behind.ahead
    let next := behind.moveTo remaining
    have : next.ahead.length < c.ahead.length :=
      Nat.lt_of_le_of_lt (by simp [next, moveTo, length_ahead_advance])
        (length_ahead_lt_of_findKeyword? keyword.nonempty h)
    match found with
    | some value => ⟨start, next, value⟩ :: next.occurrences keyword reader
    | none => next.occurrences keyword reader
termination_by c.ahead.length

end Cursor

/-- The text without the characters of an occurrence in it. -/
def Occurrence.cutFrom {α : Type} (o : Occurrence α) (s : List Char) : List Char :=
  s.take o.start.passed.length ++ s.drop o.stop.passed.length

/-- A reader that leaves the text alone when it fails. -/
def Scan.orStay {α : Type} (reader : List Char → Option (α × List Char)) (s : List Char) :
    Option α × List Char :=
  match reader s with
  | some (value, remaining) => (some value, remaining)
  | none => (none, s)

end SchemaDiagram
