import SchemaDiagram.Json.Number

/-!
# Reading values from JSON tokens

A `Reader` takes the tokens of one value off the front of a token list. Documents are read from left
to right and the first fault in that order is the one reported, whether it lies in the text itself
or in a value of the wrong kind. `skip` passes over a value of any kind.
-/

namespace SchemaDiagram.Json

/-- Takes a value off the front of a token list. -/
abbrev Reader (α : Type) :=
  List Token → Except Fault (α × List Token)

/-! ## Passing over a value -/

/-- The brackets that are open around a value. -/
inductive Bracket where
  | array
  | object
deriving DecidableEq, Repr

/-- What may come next inside open brackets. -/
inductive Awaited where
  /-- A value. -/
  | value
  /-- The first item of an array, or its end. -/
  | firstItem
  /-- The first key of an object, or its end. -/
  | firstKey
  /-- A key. -/
  | key
  /-- The colon behind a key. -/
  | colon
  /-- A comma or a closing bracket. -/
  | next
deriving DecidableEq, Repr

/-- Passes over tokens up to the end of the value that the given brackets surround. -/
def skipWithin : Awaited → List Bracket → Reader Unit
  | .next, [], tokens => .ok ((), tokens)
  | _, _, [] => .error .ended
  | .firstItem, _ :: around, .closeBracket :: rest => skipWithin .next around rest
  | .firstKey, _ :: around, .closeBrace :: rest => skipWithin .next around rest
  | .value, around, token :: rest | .firstItem, around, token :: rest =>
    match token with
    | .null | .bool _ | .number _ | .string _ => skipWithin .next around rest
    | .openBracket => skipWithin .firstItem (.array :: around) rest
    | .openBrace => skipWithin .firstKey (.object :: around) rest
    | .brokenWord fault | .brokenString _ fault => .error fault
    | _ => .error .malformed
  | .firstKey, around, token :: rest | .key, around, token :: rest =>
    match token with
    | .string _ => skipWithin .colon around rest
    | .brokenString _ fault => .error fault
    | _ => .error .malformed
  | .colon, around, token :: rest =>
    match token with
    | .colon => skipWithin .value around rest
    | _ => .error .malformed
  | .next, bracket :: around, token :: rest =>
    match bracket, token with
    | .array, .comma => skipWithin .value (bracket :: around) rest
    | .object, .comma => skipWithin .key (bracket :: around) rest
    | .array, .closeBracket => skipWithin .next around rest
    | .object, .closeBrace => skipWithin .next around rest
    | _, _ => .error .malformed

/-- Passes over one value. -/
def skip : Reader Unit :=
  skipWithin .value []

/-! ## Strings -/

/-- Whether a code unit is the first half of a pair. -/
def isHighSurrogate (n : Nat) : Bool :=
  0xD800 ≤ n && n ≤ 0xDBFF

/-- Whether a code unit is the second half of a pair. -/
def isLowSurrogate (n : Nat) : Bool :=
  0xDC00 ≤ n && n ≤ 0xDFFF

/-- The characters of a string whose reading ends with `fault?`. Code units must pair up; one that
does not is a fault unless the text ends right behind it. -/
def characters (fault? : Option Fault) : List Piece → Except Fault (List Char)
  | [] => match fault? with
    | none => .ok []
    | some fault => .error fault
  | .char c :: rest => (characters fault? rest).map (c :: ·)
  | .unit n :: rest =>
    if isLowSurrogate n then .error .malformed
    else if isHighSurrogate n then
      match rest with
      | .unit m :: rest =>
        if isLowSurrogate m then
          (characters fault? rest).map
            (Char.ofNat (0x10000 + (n - 0xD800) * 0x400 + (m - 0xDC00)) :: ·)
        else .error .malformed
      | .char _ :: _ => .error .malformed
      | [] => .error (fault?.getD .malformed)
    else (characters fault? rest).map (Char.ofNat n :: ·)

/-- The fault of a token list whose first value is not of the expected kind. -/
def mismatch : List Token → Fault
  | [] => .ended
  | token :: _ =>
    match token with
    | .null | .bool _ | .openBrace | .openBracket => .unfit
    | .number n => if n.toFloat?.isSome then .unfit else .malformed
    | .string pieces => match characters none pieces with
      | .ok _ => .unfit
      | .error fault => fault
    | .brokenString pieces fault => match characters (some fault) pieces with
      | .ok _ => fault
      | .error fault => fault
    | .brokenWord fault | .brokenNumber fault => fault
    | _ => .malformed

namespace Reader

/-- Reads a string. -/
def text : Reader String
  | .string pieces :: rest => (characters none pieces).map fun s => (String.ofList s, rest)
  | tokens => .error (mismatch tokens)

/-- Reads a string that `accept` accepts. -/
def textWith {α : Type} (accept : String → Option α) : Reader α := fun tokens => do
  let (s, rest) ← text tokens
  match accept s with
  | some value => .ok (value, rest)
  | none => .error .unfit

/-- Reads `true` or `false`. -/
def boolean : Reader Bool
  | .bool value :: rest => .ok (value, rest)
  | tokens => .error (mismatch tokens)

/-- Reads a number. -/
def float : Reader Float
  | .number n :: rest => match n.toFloat? with
    | some x => .ok (x, rest)
    | none => .error .malformed
  | tokens => .error (mismatch tokens)

/-- Reads `null`, or else a value. -/
def option {α : Type} (value : Reader α) : Reader (Option α)
  | .null :: rest => .ok (none, rest)
  | tokens => (value tokens).map fun (x, rest) => (some x, rest)

/-- Reads one of several names, given as a string or as an object with that key and the value
`null`. -/
def choice {α : Type} (ofName? : String → Option α) : Reader α := fun tokens =>
  match tokens with
  | [] => .error .ended
  | .string _ :: _ | .brokenString _ _ :: _ => textWith ofName? tokens
  | .openBrace :: rest => do
    let (value, rest) ← textWith ofName? rest
    match rest with
    | .colon :: .null :: .closeBrace :: rest => .ok (value, rest)
    | .colon :: .null :: [] | .colon :: [] | [] => .error .ended
    | .colon :: .null :: _ => .error .malformed
    | .colon :: rest => .error (mismatch rest)
    | _ => .error .malformed
  | _ => .error .malformed

/-- The fault in place of a separator that is wrong or missing. -/
def separatorFault (tokens : List Token) : Fault :=
  if tokens.isEmpty then .ended else .malformed

/-- Reads the items behind the opening bracket of an array or behind a comma in it, of which there
must be at least one. -/
def items {α : Type} (item : Reader α) (tokens : List Token) :
    Except Fault (List α × List Token) := do
  let (x, rest) ← item tokens
  match rest with
  | .closeBracket :: rest => .ok ([x], rest)
  | .comma :: .closeBracket :: _ => .error .malformed
  | .comma :: rest' =>
    if rest'.length < tokens.length then
      let (xs, rest) ← items item rest'
      .ok (x :: xs, rest)
    else .error .malformed
  | rest => .error (separatorFault rest)
termination_by tokens.length

/-- Reads an array. -/
def list {α : Type} (item : Reader α) : Reader (List α)
  | .openBracket :: .closeBracket :: rest => .ok ([], rest)
  | .openBracket :: [] => .error .ended
  | .openBracket :: rest => items item rest
  | tokens => .error (mismatch tokens)

/-- Reads the colon behind a key. -/
def colon : Reader Unit
  | .colon :: rest => .ok ((), rest)
  | rest => .error (separatorFault rest)

/-- Whether a key is ahead, if only the beginning of one. -/
def atKey : List Token → Bool
  | .string _ :: _ | .brokenString _ _ :: _ => true
  | _ => false

/-- Reads the members behind the opening brace of an object or behind a comma in it, of which there
must be at least one. `member key` takes a value into what has been read so far, which starts as
`read`. -/
def members {δ : Type} (member : String → δ → Reader δ) (read : δ) (tokens : List Token) :
    Except Fault (δ × List Token) :=
  if !atKey tokens then .error (separatorFault tokens)
  else do
    let (key, rest) ← text tokens
    let (read, rest) ← member key read rest
    match rest with
    | .closeBrace :: rest => .ok (read, rest)
    | .comma :: rest' =>
      if rest'.length < tokens.length then members member read rest' else .error .malformed
    | rest => .error (separatorFault rest)
termination_by tokens.length

/-- Reads an object, behind its opening brace, member by member. -/
def object {δ : Type} (member : String → δ → Reader δ) (start : δ) : Reader δ
  | .closeBrace :: rest => .ok (start, rest)
  | tokens => members member start tokens

/-- Reads an object as a map: each member is handed to `insert`, also when its key is repeated. -/
def map {α μ : Type} (value : Reader α) (insert : μ → String → α → μ) (empty : μ) : Reader μ
  | .openBrace :: rest =>
    object (fun key read tokens => do
      let ((), tokens) ← colon tokens
      let (x, tokens) ← value tokens
      .ok (insert read key x, tokens)) empty rest
  | tokens => .error (mismatch tokens)

/-- Reads a whole text, which holds one value and nothing but blanks behind it. -/
def run {α : Type} (value : Reader α) (s : String) : Except Fault α := do
  let (x, rest) ← value (Token.ofText s.toList)
  if rest.isEmpty then .ok x else .error .malformed

end Reader

end SchemaDiagram.Json
