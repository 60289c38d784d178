import SchemaDiagram.Proofs.Text.Cursor
import SchemaDiagram.Text.ByteCursor

/-!
# The cursor in bytes stays between characters

A cursor that counts bytes could be moved into a character, and then no slice of the text begins at
it. It never is when it is moved by its operations and set back to places where it was before: it
moves like the cursor that has the characters on both sides (`Cursor.step_inBytes`), so each
operation comes to a result, and what is known of the one cursor is known of the other
(`ByteCursor.behaves_of_visits`). That holds also if the cursor was set back into the middle of a
word, where the search for a keyword has to look at the character in front of it.
-/

namespace SchemaDiagram

open Character
open Cursor (Answer IsBoundary IsSlice Operation byteLength byteLength_append byteLength_reverse)

/-! ## Slices -/

namespace Text

variable {s p t w word : List Char} {i : Nat}

/-- A text is divided between two of its characters. -/
theorem splitByte?_append (p t : List Char) : splitByte? (byteLength p) (p ++ t) = some (p, t) := by
  induction p with
  | nil => cases t <;> rfl
  | cons c p ih =>
    obtain ⟨n, hn⟩ := Nat.exists_eq_succ_of_ne_zero (Cursor.byteLength_pos (List.cons_ne_nil c p)).ne'
    have hlength : n + 1 = c.utf8Size + byteLength p := hn.symm
    rw [hn, List.cons_append, splitByte?, if_pos (by omega),
      show n + 1 - c.utf8Size = byteLength p by omega, ih]
    rfl

/-- What is behind the first part of a text is taken from its last byte on. -/
theorem from?_append (p t : List Char) : from? (p ++ t) (byteLength p) = some t := by
  rw [from?, splitByte?_append]
  rfl

/-- The first part of a text is taken up to its last byte. -/
theorem upTo?_append (p t : List Char) : upTo? (p ++ t) (byteLength p) = some p := by
  rw [upTo?, splitByte?_append]
  rfl

/-- A part of a text is the slice between its first and its last byte. -/
theorem slice?_append (p w t : List Char) :
    slice? (p ++ (w ++ t)) (byteLength p) (byteLength p + byteLength w) = some w := by
  rw [slice?, ← List.append_assoc, ← byteLength_append, upTo?_append]
  exact from?_append p w

/-- A first part with the letters of a word is as long as the word. -/
theorem startsWithLetters_append (h : sameLetters w word = true) (t : List Char) :
    startsWithLetters (w ++ t) word = true := by
  rw [startsWithLetters, ← Cursor.byteLength_of_sameLetters h, upTo?_append]
  exact h

/-- A text begins with the letters of a word exactly if they can be read off it. -/
theorem startsWithLetters_eq (s word : List Char) :
    startsWithLetters s word = (Scan.letters? word s).isSome := by
  cases hletters : Scan.letters? word s with
  | some behind =>
    obtain ⟨w, rfl, hsame⟩ := Scan.letters?_eq_some_iff.1 hletters
    exact startsWithLetters_append hsame behind
  | none =>
    rw [startsWithLetters, upTo?]
    cases hsplit : splitByte? (byteLength word) s with
    | none => rfl
    | some parts =>
      obtain ⟨front, behind⟩ := parts
      obtain ⟨rfl, -⟩ := eq_append_of_splitByte? hsplit
      refine Bool.eq_false_iff.2 fun hsame => ?_
      rw [Scan.letters?_eq_some_iff.2 ⟨front, rfl, hsame⟩] at hletters
      cases hletters

/-- Behind the letters of a word the slice begins that the reader leaves. -/
theorem from?_of_letters? {p behind : List Char} (h : Scan.letters? word s = some behind) :
    from? (p ++ s) (byteLength p + byteLength word) = some behind := by
  obtain ⟨w, rfl, hsame⟩ := Scan.letters?_eq_some_iff.1 h
  rw [← Cursor.byteLength_of_sameLetters hsame, ← byteLength_append, ← List.append_assoc]
  exact from?_append _ _

/-- The first occurrence of a stop begins behind the text that is read up to it. -/
theorem findByte?_eq (stop s : List Char) :
    findByte? stop s = (Scan.until? stop s).map fun found => byteLength found.1 := by
  induction s with
  | nil =>
    unfold findByte? Scan.until?
    split <;> rfl
  | cons c s ih =>
    rw [findByte?, Scan.until?, ih]
    cases hfront : stop.isPrefixOf? (c :: s) with
    | some remaining =>
      rw [if_pos (List.isPrefixOf_iff_prefix.2
        ⟨remaining, List.isPrefixOf?_eq_some_iff_append_eq.1 hfront⟩)]
      rfl
    | none =>
      have hnot : stop.isPrefixOf (c :: s) = false := by
        refine Bool.eq_false_iff.2 fun hprefix => ?_
        obtain ⟨remaining, hremaining⟩ := List.isPrefixOf_iff_prefix.1 hprefix
        rw [List.isPrefixOf?_eq_some_iff_append_eq.2 hremaining] at hfront
        cases hfront
      rw [hnot, if_neg (by decide), Option.map_map, Option.map_map]
      rfl

end Text

open Text

/-! ## The same cursor in bytes -/

namespace Cursor

variable {s t w word : List Char} {c : Cursor}

/-- The cursor as a number of bytes. -/
def inBytes (c : Cursor) : ByteCursor :=
  ⟨c.text, c.offset⟩

/-- The text ahead can be taken. -/
theorem rest_inBytes (c : Cursor) : c.inBytes.rest = some c.ahead := by
  rw [ByteCursor.rest, inBytes, offset, ← byteLength_reverse]
  exact from?_append _ _

/-- The text before the cursor can be taken. -/
theorem upTo?_inBytes (c : Cursor) : upTo? c.text c.offset = some c.passed.reverse := by
  rw [offset, ← byteLength_reverse]
  exact upTo?_append _ _

/-- Both see the same next character. -/
theorem peek_inBytes (c : Cursor) : c.inBytes.peek = some c.peek? := by
  rw [ByteCursor.peek, rest_inBytes]
  rfl

/-- Moving by the bytes of what comes first ahead passes its characters. -/
theorem moveBy_inBytes (h : c.ahead = w ++ t) :
    c.inBytes.moveBy (byteLength w) = (c.advance w.length).inBytes := by
  unfold ByteCursor.moveBy inBytes
  rw [text_advance, offset_advance, h, List.take_left]

/-- The cursor at the end is behind all bytes. -/
theorem toEnd_inBytes (c : Cursor) : c.toEnd.inBytes = ⟨c.text, byteLength c.text⟩ := by
  unfold toEnd inBytes
  rw [text_advance, offset_advance, List.take_length, text, byteLength_append, byteLength_reverse]
  rfl

/-- Both take the next character. -/
theorem bump_inBytes (c : Cursor) : c.inBytes.bump = some (c.bump.map id inBytes) := by
  rw [ByteCursor.bump, peek_inBytes, bump, peek?]
  cases hahead : c.ahead with
  | nil =>
    have hstay : c.advance 1 = c := by
      obtain ⟨passed, ahead⟩ := c
      obtain rfl : ahead = [] := hahead
      rfl
    exact congrArg (fun next => some (none, next.inBytes)) hstay.symm
  | cons char ahead =>
    have hmove : c.inBytes.moveBy (byteLength [char]) = (c.advance 1).inBytes := moveBy_inBytes hahead
    exact congrArg (fun next => some (some char, next)) hmove

/-- Both take the given character. -/
theorem eat_inBytes (expected : Char) (c : Cursor) :
    c.inBytes.eat expected = some ((c.eat expected).map id inBytes) := by
  rw [ByteCursor.eat, peek_inBytes, eat]
  by_cases hpeek : c.peek? = some expected
  · obtain ⟨ahead, hahead⟩ := List.head?_eq_some_iff.1 hpeek
    have hmove : c.inBytes.moveBy (byteLength [expected]) = (c.advance 1).inBytes :=
      moveBy_inBytes hahead
    simpa [hpeek, byteLength] using hmove
  · simp [hpeek]

/-- Both pass the characters that are accepted. -/
theorem passWhile_inBytes (accepts : Char → Bool) (c : Cursor) :
    c.inBytes.passWhile accepts = some (c.eatWhile accepts).2.inBytes := by
  obtain ⟨passed, ahead⟩ := c
  induction ahead generalizing passed with
  | nil =>
    rw [ByteCursor.passWhile, peek_inBytes]
    rfl
  | cons char ahead ih =>
    have hmove : (Cursor.mk passed (char :: ahead)).inBytes.moveBy (byteLength [char]) =
        (Cursor.mk (char :: passed) ahead).inBytes := moveBy_inBytes rfl
    rw [ByteCursor.passWhile, peek_inBytes]
    show (if accepts char then ((Cursor.mk passed (char :: ahead)).inBytes.moveBy
      (byteLength [char])).passWhile accepts else _) = _
    rw [hmove, ih]
    cases haccepts : accepts char <;> simp [eatWhile, advance, haccepts]

/-- Both take the characters that are accepted. -/
theorem eatWhile_inBytes (accepts : Char → Bool) (c : Cursor) :
    c.inBytes.eatWhile accepts = some ((c.eatWhile accepts).map id inBytes) := by
  have hslice : slice? c.text c.offset (c.eatWhile accepts).2.offset =
      some (c.ahead.takeWhile accepts) := by
    have htake := slice?_append c.passed.reverse (c.ahead.takeWhile accepts)
      (c.ahead.dropWhile accepts)
    have hfront : c.ahead.take (c.ahead.takeWhile accepts).length = c.ahead.takeWhile accepts :=
      (List.prefix_iff_eq_take.1 (List.takeWhile_prefix accepts)).symm
    rw [List.takeWhile_append_dropWhile, byteLength_reverse] at htake
    rwa [eatWhile, offset_advance, hfront]
  rw [ByteCursor.eatWhile, passWhile_inBytes]
  exact congrArg (Option.bind · fun taken => some (taken, (c.eatWhile accepts).2.inBytes)) hslice

/-- Both skip the blanks. -/
theorem skipBlanks_inBytes (c : Cursor) :
    c.inBytes.skipBlanks = some (c.skipBlanks.map id inBytes) := by
  rw [ByteCursor.skipBlanks, eatWhile_inBytes]
  rfl

/-- Both take an identifier. -/
theorem eatIdent_inBytes (c : Cursor) :
    c.inBytes.eatIdent = some (c.eatIdent?.map id inBytes) := by
  have hmove := moveTo_dropWhile isIdent c
  rw [ByteCursor.eatIdent, eatWhile_inBytes, eatIdent?, read?, Scan.ident?]
  unfold eatWhile at hmove ⊢
  cases hname : c.ahead.takeWhile isIdent with
  | nil =>
    have hstay : c.advance 0 = c := by simp [advance]
    exact congrArg (fun next => some (none, next.inBytes)) hstay
  | cons char name =>
    rw [hname] at hmove
    exact congrArg (fun next => some (some (char :: name), next.inBytes)) hmove.symm

/-- Both take the text up to a stop. -/
theorem eatUntil_inBytes (stop : List Char) (c : Cursor) :
    c.inBytes.eatUntil stop = some ((c.eatUntil? stop).map id inBytes) := by
  rw [ByteCursor.eatUntil, rest_inBytes, eatUntil?, read?, Option.bind_eq_bind, Option.bind_some,
    findByte?_eq]
  cases huntil : Scan.until? stop c.ahead with
  | none => rfl
  | some found =>
    obtain ⟨taken, behind⟩ := found
    have hahead := Scan.eq_append_of_until? huntil
    have htaken : upTo? c.ahead (byteLength taken) = some taken := hahead ▸ upTo?_append _ _
    have hmove : c.inBytes.moveBy (byteLength taken + byteLength stop) =
        (c.moveTo behind).inBytes := by
      rw [← List.append_assoc] at hahead
      have hlength : (taken ++ stop).length = c.ahead.length - behind.length := by
        rw [hahead]
        simp only [List.length_append]
        omega
      rw [← byteLength_append, moveBy_inBytes hahead, hlength]
      rfl
    show (upTo? c.ahead (byteLength taken)).bind _ = _
    rw [htaken]
    exact congrArg (fun next => some (some taken, next)) hmove

/-- Both take a keyword. -/
theorem eatKeyword_inBytes (word : List Char) (c : Cursor) :
    c.inBytes.eatKeyword word = some ((c.eatKeyword word).map id inBytes) := by
  have hkeyword : Scan.keyword? word c.ahead =
      (Scan.letters? word c.ahead).filter fun behind => !behind.head?.any isIdent := rfl
  rw [ByteCursor.eatKeyword, rest_inBytes, eatKeyword]
  show (if startsWithLetters c.ahead word then _ else _) = _
  rw [startsWithLetters_eq]
  cases hletters : Scan.letters? word c.ahead with
  | none =>
    rw [hkeyword, hletters]
    rfl
  | some behind =>
    obtain ⟨w, hahead, hsame⟩ := Scan.letters?_eq_some_iff.1 hletters
    have hbehind : from? c.ahead (byteLength word) = some behind := by
      simpa [byteLength] using from?_of_letters? (p := []) hletters
    have hmove : c.inBytes.moveBy (byteLength word) = (c.advance word.length).inBytes := by
      rw [← byteLength_of_sameLetters hsame, ← length_eq_of_sameLetters hsame]
      exact moveBy_inBytes hahead
    show (from? c.ahead (byteLength word)).bind _ = _
    rw [hbehind, hmove, hkeyword, hletters, Option.filter_some]
    cases hident : behind.head?.any isIdent <;> simp [hident]

/-- The search by bytes finds the place that the search by characters finds. -/
theorem keywordFrom_append (word p s : List Char) (before : Option Char) :
    ByteCursor.keywordFrom (p ++ s) word before (byteLength p) s =
      some ((keywordIndex? word before s).map fun n => byteLength p + byteLength (s.take n)) := by
  induction s generalizing p before with
  | nil => rfl
  | cons c s ih =>
    have hon : ByteCursor.keywordFrom (p ++ c :: s) word (some c) (byteLength p + c.utf8Size) s =
        some (((keywordIndex? word (some c) s).map (· + 1)).map fun n =>
          byteLength p + byteLength ((c :: s).take n)) := by
      have hsearch := ih (p ++ [c]) (some c)
      rw [List.append_assoc, byteLength_append] at hsearch
      refine hsearch.trans ?_
      rw [Option.map_map]
      congr 2
      funext n
      exact Nat.add_assoc _ _ _
    have hhere : from? (p ++ c :: s) (byteLength p) = some (c :: s) := from?_append _ _
    rw [ByteCursor.keywordFrom, keywordIndex?, hon, isKeywordAt, Scan.keyword?]
    cases hbefore : before.any isIdent with
    | true => simp
    | false =>
      show ((from? (p ++ c :: s) (byteLength p)).bind fun ahead =>
        if startsWithLetters ahead word then _ else _) = _
      rw [hhere, Option.bind_some, startsWithLetters_eq]
      cases hletters : Scan.letters? word (c :: s) with
      | none => simp
      | some behind =>
        show (from? (p ++ c :: s) (byteLength p + byteLength word)).bind _ = _
        rw [from?_of_letters? hletters]
        cases hident : behind.head?.any isIdent <;> simp [hident, byteLength]

/-- Both go behind the next place of a keyword. -/
theorem findKeyword_inBytes (word : List Char) (c : Cursor) :
    c.inBytes.findKeyword word = some (match keywordIndex? word c.passed.head? c.ahead with
      | some n => (some (c.advance n).offset, (c.advance (n + word.length)).inBytes)
      | none => (none, c.toEnd.inBytes)) := by
  have hsearch : ByteCursor.keywordFrom c.text word c.passed.head? c.offset c.ahead =
      some ((keywordIndex? word c.passed.head? c.ahead).map fun n => (c.advance n).offset) := by
    have happend := keywordFrom_append word c.passed.reverse c.ahead c.passed.head?
    rw [byteLength_reverse] at happend
    simp only [offset_advance]
    exact happend
  show (upTo? c.text c.offset).bind _ = _
  rw [upTo?_inBytes]
  show c.inBytes.rest.bind _ = _
  rw [rest_inBytes]
  show (ByteCursor.keywordFrom c.text word c.passed.reverse.getLast? c.offset c.ahead).bind _ = _
  rw [List.getLast?_reverse, hsearch]
  cases hindex : keywordIndex? word c.passed.head? c.ahead with
  | none =>
    rw [toEnd_inBytes]
    rfl
  | some n =>
    have hbehind := (keywordAt_of_keywordIndex? hindex).2
    show some (some _, ByteCursor.mk c.text ((c.advance n).offset + byteLength word)) = _
    rw [← hbehind, ← text_advance c (n + word.length)]
    rfl

/-- A cursor that is set to a boundary is there in bytes, too. -/
theorem seek_inBytes {offset : Nat} (h : IsBoundary c.text offset) :
    c.inBytes.seek offset = (c.seek offset).inBytes := by
  show ByteCursor.mk c.text (min offset (byteLength c.text)) = _
  rw [Nat.min_eq_left h.le, inBytes, text_seek h, offset_seek h]

end Cursor

namespace ByteCursor

/-- The answer to an operation, and the cursor after it, if it comes to a result. -/
def step (c : ByteCursor) : Operation → Option (Answer × ByteCursor)
  | .bump => c.bump.map (Prod.map .char id)
  | .eat expected => (c.eat expected).map (Prod.map .flag id)
  | .eatWhile accepts => (c.eatWhile accepts).map (Prod.map (.slice ∘ some) id)
  | .skipBlanks => c.skipBlanks.map (Prod.map .flag id)
  | .eatIdent => c.eatIdent.map (Prod.map .slice id)
  | .eatUntil stop => (c.eatUntil stop).map (Prod.map .slice id)
  | .eatKeyword word => (c.eatKeyword word).map (Prod.map .flag id)
  | .findKeyword word => (c.findKeyword word).map (Prod.map .place id)
  | .seek offset => some (.done, c.seek offset)

end ByteCursor

/-- Both do the same: each operation comes to a result in bytes, with the same answer, and moves to
the same place. For setting the cursor this takes a boundary. -/
theorem Cursor.step_inBytes (c : Cursor) (op : Operation)
    (h : ∀ offset, op = .seek offset → IsBoundary c.text offset) :
    c.inBytes.step op = some ((c.step op).map id inBytes) := by
  cases op with
  | bump => exact congrArg (Option.map _) c.bump_inBytes
  | eat expected => exact congrArg (Option.map _) (c.eat_inBytes expected)
  | eatWhile accepts => exact congrArg (Option.map _) (c.eatWhile_inBytes accepts)
  | skipBlanks => exact congrArg (Option.map _) c.skipBlanks_inBytes
  | eatIdent => exact congrArg (Option.map _) c.eatIdent_inBytes
  | eatUntil stop => exact congrArg (Option.map _) (c.eatUntil_inBytes stop)
  | eatKeyword word => exact congrArg (Option.map _) (c.eatKeyword_inBytes word)
  | findKeyword word =>
    refine (congrArg (Option.map _) (c.findKeyword_inBytes word)).trans ?_
    rw [step_findKeyword]
    cases keywordIndex? word c.passed.head? c.ahead <;> rfl
  | seek offset => exact congrArg (fun next => some (Answer.done, next)) (seek_inBytes (h offset rfl))

namespace ByteCursor

/-! ## All runs -/

/-- The cursors that operations on the text `s` lead to, each with the offsets up to it. A cursor may
be set back to any of these. -/
inductive Visits (s : List Char) : List Nat → ByteCursor → Prop where
  | start : Visits s [(start s).position] (start s)
  | step {noted : List Nat} {c next : ByteCursor} {op : Operation} {answer : Answer} :
    Visits s noted c → (∀ offset, op = .seek offset → offset ∈ noted) →
      c.step op = some (answer, next) → Visits s (next.position :: noted) next

/-- The cursor in bytes is a cursor in the text, and the noted offsets are boundaries of it. -/
structure InText (s : List Char) (noted : List Nat) (c : ByteCursor) : Prop where
  /-- It has the given text before and behind it. -/
  between : ∃ d : Cursor, d.text = s ∧ c = d.inBytes
  /-- The noted offsets are boundaries. -/
  noted : ∀ i ∈ noted, IsBoundary s i

variable {s : List Char} {noted : List Nat} {c next : ByteCursor}

/-- An operation leaves the cursor in the text. -/
theorem InText.step {op : Operation} {answer : Answer} (h : InText s noted c)
    (hseek : ∀ offset, op = .seek offset → offset ∈ noted) (hstep : c.step op = some (answer, next)) :
    InText s (next.position :: noted) next := by
  obtain ⟨d, rfl, rfl⟩ := h.between
  have hboundary (offset : Nat) (hop : op = .seek offset) : IsBoundary d.text offset :=
    h.noted offset (hseek offset hop)
  rw [d.step_inBytes op hboundary] at hstep
  obtain ⟨-, rfl⟩ := Prod.mk.inj (Option.some.inj hstep)
  have htext := d.text_step op hboundary
  refine ⟨⟨_, htext, rfl⟩, List.forall_mem_cons.2 ⟨?_, h.noted⟩⟩
  rw [← htext]
  exact Cursor.isBoundary_offset _

/-- Operations keep the cursor in the text. -/
theorem inText_of_visits (h : Visits s noted c) : InText s noted c := by
  induction h with
  | start =>
    exact ⟨⟨Cursor.start s, rfl, rfl⟩,
      List.forall_mem_singleton.2 (Cursor.isBoundary_offset (Cursor.start s))⟩
  | step _ hseek hstep ih => exact ih.step hseek hstep

/-- What the cursor does next, where `noted` are offsets at which it was before. -/
structure Behaves (s : List Char) (noted : List Nat) (c : ByteCursor) : Prop where
  /-- It is a cursor in the text. -/
  source : c.source = s
  /-- It is at a boundary of the text. -/
  boundary : IsBoundary s c.position
  /-- It is not behind the end of the text. -/
  le : c.position ≤ byteLength s
  /-- Every operation comes to a result: no slice of it begins or ends inside a character. -/
  total : ∀ op, (∀ offset, op = .seek offset → offset ∈ noted) →
    ∃ answer next, c.step op = some (answer, next)
  /-- It can be set back to each of the noted offsets. -/
  back : ∀ offset ∈ noted, ∃ next, c.step (.seek offset) = some (.done, next) ∧
    next.position = offset
  /-- Otherwise it does not go backward. -/
  forward : ∀ op answer next, (∀ offset, op ≠ .seek offset) → c.step op = some (answer, next) →
    c.position ≤ next.position
  /-- The parts of the text that are returned are those that it passes. -/
  slice : ∀ op w next, c.step op = some (.slice (some w), next) →
    IsSlice s c.position next.position w
  /-- Of the places from the cursor on where a keyword stands the first one is found, and the cursor
  goes just behind the keyword. -/
  found : ∀ word, IsWord word → ∀ i : Nat,
    (∃ behind, c.step (.findKeyword word) = some (.place i, behind) ∧
        behind.position = i + byteLength word) ↔
      IsLeast {j | c.position ≤ j ∧ KeywordAt word s j} i
  /-- If there is no such place, nothing is found and the cursor goes to the end. -/
  missing : ∀ word, IsWord word →
    ((∃ last, c.step (.findKeyword word) = some (.place none, last) ∧
        last.position = byteLength s) ↔
      ∀ i, c.position ≤ i → ¬KeywordAt word s i)

/-- The search for a keyword in bytes, by the place that the search by characters finds. -/
theorem step_findKeyword (d : Cursor) (word : List Char) :
    d.inBytes.step (.findKeyword word) =
      some (match Cursor.keywordIndex? word d.passed.head? d.ahead with
        | some n => (.place (d.advance n).offset, (d.advance (n + word.length)).inBytes)
        | none => (.place none, d.toEnd.inBytes)) := by
  rw [d.step_inBytes _ (by simp), Cursor.step_findKeyword]
  cases Cursor.keywordIndex? word d.passed.head? d.ahead <;> rfl

/-- A keyword is found at a place exactly if that is the first one from the cursor on, and the cursor
goes just behind it. -/
theorem exists_place_iff (d : Cursor) {word : List Char} (hword : IsWord word) (i : Nat) :
    (∃ behind, d.inBytes.step (.findKeyword word) = some (.place i, behind) ∧
        behind.position = i + byteLength word) ↔
      IsLeast {j | d.offset ≤ j ∧ KeywordAt word d.text j} i := by
  rw [step_findKeyword]
  cases hindex : Cursor.keywordIndex? word d.passed.head? d.ahead with
  | some n =>
    have hleast := Cursor.isLeast_of_keywordIndex? hword hindex
    have hbehind := (Cursor.keywordAt_of_keywordIndex? hindex).2
    constructor
    · rintro ⟨behind, heq, -⟩
      cases heq
      exact hleast
    · intro hi
      obtain rfl := hi.unique hleast
      exact ⟨_, rfl, hbehind⟩
  | none =>
    constructor
    · rintro ⟨behind, heq, -⟩
      cases heq
    · rintro ⟨⟨hi, hat⟩, -⟩
      exact absurd hat (Cursor.not_keywordAt_of_keywordIndex? hword hindex hi)

/-- No keyword is found exactly if there is none from the cursor on, and the cursor goes to the
end. -/
theorem exists_noPlace_iff (d : Cursor) {word : List Char} (hword : IsWord word) :
    (∃ last, d.inBytes.step (.findKeyword word) = some (.place none, last) ∧
        last.position = byteLength d.text) ↔
      ∀ i, d.offset ≤ i → ¬KeywordAt word d.text i := by
  rw [step_findKeyword]
  cases hindex : Cursor.keywordIndex? word d.passed.head? d.ahead with
  | some n =>
    obtain ⟨hle, hat⟩ := (Cursor.isLeast_of_keywordIndex? hword hindex).1
    constructor
    · rintro ⟨last, heq, -⟩
      cases heq
    · exact fun hnone => absurd hat (hnone _ hle)
  | none =>
    constructor
    · exact fun _ i hi => Cursor.not_keywordAt_of_keywordIndex? hword hindex hi
    · exact fun _ => ⟨_, rfl, congrArg ByteCursor.position d.toEnd_inBytes⟩

/-- A cursor that operations on a text lead to behaves like this. -/
theorem behaves_of_visits (h : Visits s noted c) : Behaves s noted c := by
  obtain ⟨⟨d, rfl, rfl⟩, hnoted⟩ := inText_of_visits h
  have hstep (op : Operation) (hop : ∀ offset, op = .seek offset → offset ∈ noted) :
      d.inBytes.step op = some ((d.step op).map id Cursor.inBytes) :=
    d.step_inBytes op fun offset heq => hnoted offset (hop offset heq)
  constructor
  case source => rfl
  case boundary => exact d.isBoundary_offset
  case le => exact d.isBoundary_offset.le
  case total => exact fun op hop => ⟨_, _, hstep op hop⟩
  case back =>
    intro offset hoffset
    refine ⟨d.inBytes.seek offset, rfl, ?_⟩
    rw [Cursor.seek_inBytes (hnoted offset hoffset)]
    exact Cursor.offset_seek (hnoted offset hoffset)
  case forward =>
    intro op answer next hop heq
    rw [hstep op fun offset hseek => absurd hseek (hop offset)] at heq
    obtain ⟨-, rfl⟩ := Prod.mk.inj (Option.some.inj heq)
    obtain ⟨n, hn⟩ := d.exists_step_eq_advance op hop
    show d.offset ≤ (d.step op).2.offset
    rw [hn, Cursor.offset_advance]
    exact Nat.le_add_right _ _
  case slice =>
    intro op w next heq
    have hop (offset : Nat) (hseek : op = .seek offset) : offset ∈ noted := by
      subst hseek
      cases heq
    rw [hstep op hop] at heq
    obtain ⟨hanswer, rfl⟩ := Prod.mk.inj (Option.some.inj heq)
    exact Cursor.isSlice_step hanswer
  case found => exact fun word hword i => exists_place_iff d hword i
  case missing => exact fun word hword => exists_noPlace_iff d hword

/-- A text in which a keyword stands behind longer words that begin or end with its letters. -/
def tableText : List Char :=
  "étable Tables_ 表_table, TABLE x".toList

/-- From behind the first character, where the cursor was set back to, the letters just ahead are not
taken for the keyword, and it is found again. Inside that character the cursor could take nothing. -/
theorem behaves_tableText : Visits tableText [2, 32, 2, 0] ⟨tableText, 2⟩ ∧
    Behaves tableText [2, 32, 2, 0] ⟨tableText, 2⟩ ∧
    ByteCursor.step ⟨tableText, 2⟩ (.findKeyword "table".toList) =
      some (.place (some 27), ⟨tableText, 32⟩) ∧
    ByteCursor.step ⟨tableText, 1⟩ .bump = none := by
  have hbump : (start tableText).step .bump = some (.char (some 'é'), ⟨tableText, 2⟩) := by
    decide +kernel
  have hfind : ByteCursor.step ⟨tableText, 2⟩ (.findKeyword "table".toList) =
      some (.place (some 27), ⟨tableText, 32⟩) := by
    decide +kernel
  have hback : ByteCursor.step ⟨tableText, 32⟩ (.seek 2) = some (.done, ⟨tableText, 2⟩) := by
    decide +kernel
  have hvisits : Visits tableText [2, 32, 2, 0] ⟨tableText, 2⟩ := by
    refine .step (.step (.step .start ?_ hbump) ?_ hfind) ?_ hback
    · simp
    · simp
    · simp
  exact ⟨hvisits, behaves_of_visits hvisits, hfind, by decide +kernel⟩

end ByteCursor

end SchemaDiagram
