import SchemaDiagram.Bytes.Hex
import SchemaDiagram.Text.Cursor

/-!
# JSON tokens

The tokens of a JSON text. Strings keep their escapes as code units, because whether those pair up
to characters matters only where the string is read and not where it is skipped. Numbers keep their
parts. A text that breaks off or goes wrong inside a token yields a last token that says so, and
nothing behind it.
-/

namespace SchemaDiagram.Json

/-- Why a text could not be read as the expected value. -/
inductive Fault where
  /-- The text ends too early. -/
  | ended
  /-- The text is not JSON. -/
  | malformed
  /-- The value is not of the expected kind. -/
  | unfit
deriving DecidableEq, Repr

/-- The message about a fault. -/
def Fault.message : Fault → String
  | ended => "the text ends too early"
  | malformed => "the text is not JSON"
  | unfit => "a value is not of the expected kind"

/-- A number literal in its parts. -/
structure Numeral where
  /-- Whether a minus sign precedes it. -/
  negative : Bool
  /-- The digits before the point. -/
  integer : List Char
  /-- The digits behind the point. -/
  fraction : List Char
  /-- Whether the exponent has a minus sign. -/
  negativeExponent : Bool
  /-- The digits of the exponent. -/
  exponent : List Char
deriving DecidableEq, Repr

/-- A part of a string: a character, or a code unit given by an escape. -/
inductive Piece where
  | char (c : Char)
  | unit (n : Nat)
deriving DecidableEq, Repr

/-- A token. The last four are those of a text that is not JSON. -/
inductive Token where
  | openBrace
  | closeBrace
  | openBracket
  | closeBracket
  | colon
  | comma
  | null
  | bool (value : Bool)
  | number (n : Numeral)
  | string (pieces : List Piece)
  /-- A word that is none of the three known ones, or that the end of the text cuts off. -/
  | brokenWord (fault : Fault)
  /-- A number with a digit missing, or with a leading zero. -/
  | brokenNumber (fault : Fault)
  /-- A string without its closing quote, or with a character or escape that is not allowed. -/
  | brokenString (pieces : List Piece) (fault : Fault)
  /-- A character that begins no token. -/
  | stray
deriving DecidableEq, Repr

namespace Token

/-- The blanks between tokens. -/
def isBlank (c : Char) : Bool :=
  c == ' ' || c == '\t' || c == '\n' || c == '\r'

/-- The fault of a token whose next character is wrong or missing. -/
def faultAt (s : List Char) : Fault :=
  if s.isEmpty then .ended else .malformed

/-- Reads the letters of a word. -/
def word : (letters s : List Char) → Except Fault (List Char)
  | [], s => .ok s
  | _ :: _, [] => .error .ended
  | w :: letters, c :: rest => if c = w then word letters rest else .error .malformed

/-- Reads digits, of which there must be at least one. -/
def digits (s : List Char) : Except Fault (List Char × List Char) :=
  match s.takeWhile Char.isDigit with
  | [] => .error (faultAt s)
  | ds => .ok (ds, s.dropWhile Char.isDigit)

/-- Reads the digits before the point: a single zero, or digits that do not start with one. -/
def integer (s : List Char) : Except Fault (List Char × List Char) := do
  let (ds, rest) ← digits s
  if ds.head? = some '0' ∧ ds ≠ ['0'] then .error .malformed else .ok (ds, rest)

/-- Reads the point and the digits behind it, if there is a point. -/
def fraction : List Char → Except Fault (List Char × List Char)
  | '.' :: rest => digits rest
  | s => .ok ([], s)

/-- Reads the exponent, if there is one: whether it is negative, and its digits. -/
def exponent (s : List Char) : Except Fault (Bool × List Char × List Char) :=
  match s with
  | c :: rest =>
    if c = 'e' ∨ c = 'E' then
      match rest with
      | '-' :: rest => (digits rest).map fun (ds, rest) => (true, ds, rest)
      | '+' :: rest => (digits rest).map fun (ds, rest) => (false, ds, rest)
      | rest => (digits rest).map fun (ds, rest) => (false, ds, rest)
    else .ok (false, [], s)
  | [] => .ok (false, [], [])

/-- Reads a number behind its sign. -/
def numeral (negative : Bool) (s : List Char) : Except Fault (Numeral × List Char) := do
  let (integer, s) ← integer s
  let (fraction, s) ← fraction s
  let (negativeExponent, exponent, s) ← exponent s
  return (⟨negative, integer, fraction, negativeExponent, exponent⟩, s)

/-- Reading the letters of a word does not lengthen what remains. -/
theorem length_le_of_word {letters s rest : List Char} (h : word letters s = .ok rest) :
    rest.length ≤ s.length := by
  fun_induction word letters s with
  | case1 => simp_all
  | case2 => simp at h
  | case3 w letters tail ih => exact Nat.le_succ_of_le (ih h)
  | case4 => simp at h

/-- Reading digits takes at least one. -/
theorem length_lt_of_digits {s : List Char} {r : List Char × List Char} (h : digits s = .ok r) :
    r.2.length < s.length := by
  cases s with
  | nil => simp [digits] at h
  | cons c s =>
    by_cases hc : c.isDigit = true
    · simp only [digits, List.takeWhile_cons_of_pos hc, List.dropWhile_cons_of_pos hc,
        Except.ok.injEq] at h
      rw [← h]
      exact Nat.lt_succ_of_le (List.dropWhile_suffix _).length_le
    · simp [digits, List.takeWhile_cons_of_neg hc] at h

/-- Reading the digits before the point takes at least one. -/
theorem length_lt_of_integer {s : List Char} {r : List Char × List Char}
    (h : integer s = .ok r) : r.2.length < s.length := by
  cases hd : digits s with
  | error e => simp [integer, hd, bind, Except.bind] at h
  | ok d =>
    simp only [integer, hd, bind, Except.bind] at h
    split at h
    · simp at h
    · exact (Except.ok.inj h) ▸ length_lt_of_digits hd

/-- Reading a fraction does not lengthen what remains. -/
theorem length_le_of_fraction {s : List Char} {r : List Char × List Char}
    (h : fraction s = .ok r) : r.2.length ≤ s.length := by
  simp only [fraction] at h
  split at h
  · exact Nat.le_succ_of_le (Nat.le_of_lt (length_lt_of_digits h))
  · exact Except.ok.inj h ▸ Nat.le_refl _

/-- Reading an exponent does not lengthen what remains. -/
theorem length_le_of_exponent {s : List Char} {r : Bool × List Char × List Char}
    (h : exponent s = .ok r) : r.2.2.length ≤ s.length := by
  have of_digits {negative : Bool} {t : List Char}
      (hd : (digits t).map (fun (ds, rest) => (negative, ds, rest)) = .ok r) :
      r.2.2.length < t.length := by
    cases hr : digits t with
    | error e => simp [hr, Except.map] at hd
    | ok d =>
      simp only [hr, Except.map, Except.ok.injEq] at hd
      exact hd ▸ length_lt_of_digits hr
  simp only [exponent] at h
  split at h
  · split at h
    · split at h
      all_goals
        have := of_digits h
        simp only [List.length_cons] at *
        omega
    · exact Except.ok.inj h ▸ Nat.le_refl _
  · exact Except.ok.inj h ▸ Nat.le_refl _

/-- Reading a number takes at least one character. -/
theorem length_lt_of_numeral {negative : Bool} {s : List Char} {r : Numeral × List Char}
    (h : numeral negative s = .ok r) : r.2.length < s.length := by
  simp only [numeral, bind, Except.bind] at h
  split at h
  · simp at h
  · next i hi =>
    split at h
    · simp at h
    · next f hf =>
      split at h
      · simp at h
      · next e he =>
        have h1 := length_lt_of_integer hi
        have h2 := length_le_of_fraction hf
        have h3 := length_le_of_exponent he
        rw [← Except.ok.inj h]
        exact Nat.lt_of_le_of_lt (Nat.le_trans h3 h2) h1

/-! ## Strings -/

/-- Reads the four digits of a code unit. With fewer than four bytes left the text ends early. -/
def codeUnit (s : List Char) : Except Fault (Nat × List Char) :=
  let wrong := .error (if Cursor.byteLength s < 4 then .ended else .malformed)
  match s with
  | a :: b :: c :: d :: rest =>
    match Hex.value? a, Hex.value? b, Hex.value? c, Hex.value? d with
    | some a, some b, some c, some d => .ok (((a * 16 + b) * 16 + c) * 16 + d, rest)
    | _, _, _, _ => wrong
  | _ => wrong

/-- The character that a one-letter escape stands for. -/
def escaped? (c : Char) : Option Char :=
  if c = '"' ∨ c = '\\' ∨ c = '/' then some c
  else if c = 'b' then some '\x08'
  else if c = 'f' then some '\x0c'
  else if c = 'n' then some '\n'
  else if c = 'r' then some '\r'
  else if c = 't' then some '\t'
  else none

/-- Reads what follows a backslash. -/
def escape : List Char → Except Fault (Piece × List Char)
  | [] => .error .ended
  | c :: rest =>
    if c = 'u' then (codeUnit rest).map fun (n, rest) => (.unit n, rest)
    else match escaped? c with
      | some c => .ok (.char c, rest)
      | none => .error .malformed

/-- An escape takes at least one character. -/
theorem length_lt_of_escape {s rest : List Char} {p : Piece} (h : escape s = .ok (p, rest)) :
    rest.length < s.length := by
  match s with
  | [] => simp [escape] at h
  | c :: tail =>
    simp only [escape] at h
    split at h
    · match tail with
      | a :: b :: d :: e :: tail =>
        simp only [codeUnit] at h
        split at h <;> simp [Except.map] at h
        obtain ⟨-, rfl⟩ := h
        simp
        omega
      | [] | [_] | [_, _] | [_, _, _] => simp [codeUnit, Except.map] at h
    · split at h <;> simp at h
      obtain ⟨-, rfl⟩ := h
      simp

/-- Reads a string behind its opening quote: its pieces, and either what remains behind the closing
quote or why there is none. -/
def pieces (s : List Char) : List Piece × Except Fault (List Char) :=
  match s with
  | [] => ([], .error .ended)
  | c :: rest =>
    if c = '"' then ([], .ok rest)
    else if c = '\\' then
      match h : escape rest with
      | .error fault => ([], .error fault)
      | .ok (piece, rest') =>
        have := length_lt_of_escape h
        let (ps, outcome) := pieces rest'
        (piece :: ps, outcome)
    else if c.toNat < 0x20 then ([], .error .malformed)
    else
      let (ps, outcome) := pieces rest
      (.char c :: ps, outcome)
termination_by s.length

/-- Reading a string does not lengthen what remains. -/
theorem length_le_of_pieces {s rest : List Char} (h : (pieces s).2 = .ok rest) :
    rest.length ≤ s.length := by
  fun_induction pieces s with
  | case1 => simp at h
  | case2 => simp_all
  | case3 => simp at h
  | case4 tail piece tail' _ hlt ps outcome hp _ ih =>
    have := ih (by simpa [hp] using h)
    simp only [List.length_cons]
    omega
  | case5 => simp at h
  | case6 c tail _ _ _ ps outcome hp ih =>
    have := ih (by simpa [hp] using h)
    simp only [List.length_cons]
    omega

/-! ## Tokens of a text -/

/-- The token of a single character. -/
def single? (c : Char) : Option Token :=
  [('{', openBrace), ('}', closeBrace), ('[', openBracket), (']', closeBracket), (':', colon),
    (',', comma)].lookup c

/-- The token of a word that has been read, or not. -/
def ofWord (token : Token) : Except Fault (List Char) → Token × Option (List Char)
  | .ok remaining => (token, some remaining)
  | .error fault => (brokenWord fault, none)

/-- The token of a string that has been read, or not. -/
def ofPieces : List Piece × Except Fault (List Char) → Token × Option (List Char)
  | (ps, .ok remaining) => (string ps, some remaining)
  | (ps, .error fault) => (brokenString ps fault, none)

/-- The token of a number that has been read, or not. -/
def ofNumeral : Except Fault (Numeral × List Char) → Token × Option (List Char)
  | .ok (n, remaining) => (number n, some remaining)
  | .error fault => (brokenNumber fault, none)

/-- Reads the token that begins with `c`, and says what remains unless the token is a broken one. -/
def read (c : Char) (rest : List Char) : Token × Option (List Char) :=
  match single? c with
  | some token => (token, some rest)
  | none =>
    if c = '"' then ofPieces (pieces rest)
    else if c = 'n' then ofWord null (word "ull".toList rest)
    else if c = 't' then ofWord (bool true) (word "rue".toList rest)
    else if c = 'f' then ofWord (bool false) (word "alse".toList rest)
    else if c = '-' then ofNumeral (numeral true rest)
    else if c.isDigit then ofNumeral (numeral false (c :: rest))
    else (stray, none)

/-- Reading a token does not lengthen what remains. -/
theorem length_le_of_read {c : Char} {rest remaining : List Char}
    (h : (read c rest).2 = some remaining) : remaining.length ≤ rest.length := by
  have of_word {token : Token} {letters : List Char}
      (hw : (ofWord token (word letters rest)).2 = some remaining) :
      remaining.length ≤ rest.length := by
    cases hr : word letters rest with
    | error e => simp [hr, ofWord] at hw
    | ok r =>
      simp only [hr, ofWord, Option.some.injEq] at hw
      exact hw ▸ length_le_of_word hr
  have of_numeral {negative : Bool} {s : List Char} (hs : s.length ≤ rest.length + 1)
      (hn : (ofNumeral (numeral negative s)).2 = some remaining) :
      remaining.length ≤ rest.length := by
    cases hr : numeral negative s with
    | error e => simp [hr, ofNumeral] at hn
    | ok r =>
      simp only [hr, ofNumeral, Option.some.injEq] at hn
      have := length_lt_of_numeral hr
      rw [← hn]
      omega
  simp only [read] at h
  split at h
  · simp_all
  · split at h
    · cases hr : pieces rest with
      | mk ps outcome =>
        cases outcome with
        | error e => simp [hr, ofPieces] at h
        | ok r =>
          simp only [hr, ofPieces, Option.some.injEq] at h
          exact h ▸ length_le_of_pieces (by rw [hr])
    · split at h
      · exact of_word h
      · split at h
        · exact of_word h
        · split at h
          · exact of_word h
          · split at h
            · exact of_numeral (Nat.le_succ _) h
            · split at h
              · exact of_numeral (Nat.le_refl _) h
              · simp at h

/-- The tokens of a text. -/
def ofText (s : List Char) : List Token :=
  match s with
  | [] => []
  | c :: rest =>
    if isBlank c then ofText rest
    else
      match h : read c rest with
      | (token, some remaining) =>
        have := length_le_of_read (congrArg Prod.snd h)
        token :: ofText remaining
      | (token, none) => [token]
termination_by s.length
decreasing_by
  all_goals
    simp only [List.length_cons]
    omega

end Token

end SchemaDiagram.Json
