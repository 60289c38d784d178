import SchemaDiagram.Text.Cursor

/-!
# A cursor that counts bytes

A `ByteCursor` is a text and a number of bytes of its UTF-8 encoding. It moves by adding to that
number, and it looks at the text through slices between two bytes. There is no slice that begins or
ends inside a character or behind the end of the text, and an operation that asks for one comes to
no result.

The readers of this library hold the same cursor as a `Cursor`, which has no place inside a
character. The two move alike (`Cursor.step_inBytes`).
-/

namespace SchemaDiagram

open Character
open Cursor (byteLength)

namespace Text

/-- The text before byte `i` and the text from there on, unless the byte is inside a character or
behind the end. -/
def splitByte? : (i : Nat) → (s : List Char) → Option (List Char × List Char)
  | 0, s => some ([], s)
  | _ + 1, [] => none
  | i + 1, c :: rest =>
    if c.utf8Size ≤ i + 1 then
      (splitByte? (i + 1 - c.utf8Size) rest).map fun (before, behind) => (c :: before, behind)
    else none

/-- The text from byte `i` on. -/
def from? (s : List Char) (i : Nat) : Option (List Char) :=
  (splitByte? i s).map (·.2)

/-- The text before byte `i`. -/
def upTo? (s : List Char) (i : Nat) : Option (List Char) :=
  (splitByte? i s).map (·.1)

/-- The text from byte `i` up to byte `j`. -/
def slice? (s : List Char) (i j : Nat) : Option (List Char) :=
  (upTo? s j).bind (from? · i)

/-- The byte at which `part` occurs first. -/
def findByte? (part : List Char) : List Char → Option Nat
  | [] => if part.isEmpty then some 0 else none
  | c :: rest =>
    if part.isPrefixOf (c :: rest) then some 0
    else (findByte? part rest).map (c.utf8Size + ·)

/-- Whether a text begins with the letters of `word`, in any ASCII case. It does not if its first
bytes, as many as `word` has, end inside a character. -/
def startsWithLetters (s word : List Char) : Bool :=
  (upTo? s (byteLength word)).any (sameLetters · word)

/-- The two parts make up the text, and the first one has the given number of bytes. -/
theorem eq_append_of_splitByte? {i : Nat} {s before behind : List Char}
    (h : splitByte? i s = some (before, behind)) :
    s = before ++ behind ∧ byteLength before = i := by
  induction s generalizing i before with
  | nil =>
    cases i with
    | zero =>
      cases h
      exact ⟨rfl, rfl⟩
    | succ i => cases h
  | cons c s ih =>
    cases i with
    | zero =>
      cases h
      exact ⟨rfl, rfl⟩
    | succ i =>
      rw [splitByte?] at h
      split at h
      · next hle =>
        obtain ⟨⟨before', behind'⟩, hsplit, heq⟩ := Option.map_eq_some_iff.1 h
        cases heq
        obtain ⟨rfl, hlength⟩ := ih hsplit
        exact ⟨rfl, by rw [byteLength, hlength]; omega⟩
      · cases h

end Text

open Text

/-- A text and a place in it, in bytes. -/
structure ByteCursor where
  /-- The text. -/
  source : List Char
  /-- The number of bytes before the cursor. -/
  position : Nat
deriving DecidableEq

namespace ByteCursor

/-- The cursor at the start of a text. -/
def start (s : List Char) : ByteCursor :=
  ⟨s, 0⟩

/-- The cursor `n` bytes further on. -/
def moveBy (c : ByteCursor) (n : Nat) : ByteCursor :=
  { c with position := c.position + n }

/-- The cursor at the given byte, or at the end if the text is shorter. The byte may be inside a
character. -/
def seek (c : ByteCursor) (position : Nat) : ByteCursor :=
  { c with position := min position (byteLength c.source) }

/-- Whether nothing is ahead. -/
def atEnd (c : ByteCursor) : Bool :=
  byteLength c.source ≤ c.position

/-- The text ahead. -/
def rest (c : ByteCursor) : Option (List Char) :=
  from? c.source c.position

/-- The next character, if there is one. -/
def peek (c : ByteCursor) : Option (Option Char) :=
  c.rest.map List.head?

/-- Takes the next character. -/
def bump (c : ByteCursor) : Option (Option Char × ByteCursor) :=
  c.peek.map fun
    | some char => (some char, c.moveBy char.utf8Size)
    | none => (none, c)

/-- Takes the given character if it is the next one. -/
def eat (expected : Char) (c : ByteCursor) : Option (Bool × ByteCursor) :=
  c.peek.map fun next =>
    if next = some expected then (true, c.moveBy expected.utf8Size) else (false, c)

/-- A cursor with a next character is not at the end. -/
theorem position_lt_of_peek {c : ByteCursor} {char : Char} (h : c.peek = some (some char)) :
    c.position < byteLength c.source := by
  obtain ⟨behind, hrest, hhead⟩ := Option.map_eq_some_iff.1 h
  obtain ⟨⟨before, _⟩, hsplit, rfl⟩ := Option.map_eq_some_iff.1 hrest
  obtain ⟨hsource, hbefore⟩ := eq_append_of_splitByte? hsplit
  obtain ⟨tail, rfl⟩ := List.head?_eq_some_iff.1 hhead
  rw [hsource, Cursor.byteLength_append, hbefore, byteLength]
  have := char.utf8Size_pos
  omega

/-- The cursor behind the characters ahead that `accepts` accepts. -/
def passWhile (accepts : Char → Bool) (c : ByteCursor) : Option ByteCursor :=
  match _ : c.peek with
  | none => none
  | some none => some c
  | some (some char) =>
    if accepts char then passWhile accepts (c.moveBy char.utf8Size) else some c
termination_by byteLength c.source - c.position
decreasing_by
  have := position_lt_of_peek ‹_›
  have := Char.utf8Size_pos ‹_›
  simp only [moveBy]
  omega

/-- Takes the longest run of characters that `accepts` accepts. -/
def eatWhile (accepts : Char → Bool) (c : ByteCursor) : Option (List Char × ByteCursor) := do
  let next ← c.passWhile accepts
  let taken ← slice? c.source c.position next.position
  return (taken, next)

/-- Takes the blanks ahead, and says whether there were any. -/
def skipBlanks (c : ByteCursor) : Option (Bool × ByteCursor) :=
  (c.eatWhile isBlank).map fun (taken, next) => (!taken.isEmpty, next)

/-- Takes an identifier. -/
def eatIdent (c : ByteCursor) : Option (Option (List Char) × ByteCursor) :=
  (c.eatWhile isIdent).map fun (taken, next) => (if taken.isEmpty then none else some taken, next)

/-- Takes the text before the next occurrence of `stop`, and that occurrence. The cursor stays where
it is if there is none. -/
def eatUntil (stop : List Char) (c : ByteCursor) :
    Option (Option (List Char) × ByteCursor) := do
  let ahead ← c.rest
  match findByte? stop ahead with
  | none => return (none, c)
  | some offset =>
    let taken ← upTo? ahead offset
    return (some taken, c.moveBy (offset + byteLength stop))

/-- Takes a keyword if it is ahead as a whole word. -/
def eatKeyword (word : List Char) (c : ByteCursor) : Option (Bool × ByteCursor) := do
  let ahead ← c.rest
  if startsWithLetters ahead word then
    let behind ← from? ahead (byteLength word)
    if behind.head?.any isIdent then return (false, c)
    else return (true, c.moveBy (byteLength word))
  else return (false, c)

/-- The first place where `word` stands as a whole word in `source` from byte `place` on, where
`ahead` is the text from there and `before` the character in front of it. A place has at least one
character behind it. -/
def keywordFrom (source word : List Char) :
    (before : Option Char) → (place : Nat) → (ahead : List Char) → Option (Option Nat)
  | _, _, [] => some none
  | before, place, c :: rest =>
    let searchOn := keywordFrom source word (some c) (place + c.utf8Size) rest
    if before.any isIdent then searchOn
    else do
      if startsWithLetters (← from? source place) word then
        let behind ← from? source (place + byteLength word)
        if behind.head?.any isIdent then searchOn else return some place
      else searchOn

/-- Goes behind the next place where `word` stands as a whole word, and says where that is. The
cursor goes to the end if there is none. -/
def findKeyword (word : List Char) (c : ByteCursor) : Option (Option Nat × ByteCursor) := do
  let passed ← upTo? c.source c.position
  let ahead ← c.rest
  match ← keywordFrom c.source word passed.getLast? c.position ahead with
  | some place => return (some place, { c with position := place + byteLength word })
  | none => return (none, { c with position := byteLength c.source })

end ByteCursor

end SchemaDiagram
