import SchemaDiagram.Json.Reader

/-!
# Reading records

A record is read from an object whose keys name its fields, in any order. Keys that name no field
are skipped with their values, a field may not be given twice, and a field that is missing at the
end of the object gets its fallback or is a fault. A record may also be read from an array that
lists the fields in order, where only fields with a fallback may be left out at the end.

`Record δ α` describes such a record of type `α`; what has been read of it at some moment is a
`δ`. Records are built from a constructor by adding its arguments one after the other with
`required` and `optional`.
-/

namespace SchemaDiagram.Json

/-- How a record of type `α` is read. -/
structure Record (δ α : Type) where
  /-- No field read yet. -/
  start : δ
  /-- Reads the value of the field with the given key, behind its colon. A key that is given again
  is a fault before its value is looked at. -/
  field? : String → Option (δ → Except Fault (Reader δ))
  /-- Reads the fields in order from the items of an array; the flag says whether a comma must
  precede the next item. -/
  inOrder : Bool → Reader (δ × Bool)
  /-- The record, if all fields that must be there are. -/
  finish : δ → Option α

namespace Record

/-- The record without fields. -/
def of {α : Type} (value : α) : Record Unit α where
  start := ()
  field? _ := none
  inOrder comma tokens := .ok (((), comma), tokens)
  finish _ := some value

/-- Moves to the next item of an array, if there is one: behind the comma that must precede it. -/
def nextItem? (comma : Bool) : Reader Bool
  | [] => .error .ended
  | .closeBracket :: rest => .ok (false, .closeBracket :: rest)
  | .comma :: rest =>
    if comma then
      match rest with
      | [] => .error .ended
      | .closeBracket :: _ => .error .malformed
      | _ => .ok (true, rest)
    else .ok (true, .comma :: rest)
  | tokens => if comma then .error .malformed else .ok (true, tokens)

/-- Adds a field: its key, how its value is read, and what it is if it is missing. -/
def field {δ α β : Type} (key : String) (value : Reader β) (fallback : Option β)
    (r : Record δ (β → α)) : Record (δ × Option β) α where
  start := (r.start, none)
  field? k :=
    if k = key then some fun (read, found) =>
      match found with
      | some _ => .error .unfit
      | none => .ok fun tokens => do
        let (x, tokens) ← value tokens
        .ok ((read, some x), tokens)
    else (r.field? k).map fun step (read, found) => do
      let reader ← step read
      .ok fun tokens => do
        let (read, tokens) ← reader tokens
        .ok ((read, found), tokens)
  inOrder comma tokens := do
    let ((read, comma), tokens) ← r.inOrder comma tokens
    let (more, tokens) ← nextItem? comma tokens
    if more then
      let (x, tokens) ← value tokens
      .ok (((read, some x), true), tokens)
    else if fallback.isSome then .ok (((read, none), comma), tokens)
    else .error .unfit
  finish | (read, found) => do
    let make ← r.finish read
    let x ← found <|> fallback
    return make x

/-- Adds a field that must be there. -/
def required {δ α β : Type} (r : Record δ (β → α)) (key : String) (value : Reader β) :
    Record (δ × Option β) α :=
  r.field key value none

/-- Adds a field that may be missing. -/
def optional {δ α β : Type} (r : Record δ (β → α)) (key : String) (value : Reader β)
    (fallback : β) : Record (δ × Option β) α :=
  r.field key value (some fallback)

/-- Reads one member of the object. -/
def member {δ α : Type} (r : Record δ α) (key : String) (read : δ) : Reader δ := fun tokens =>
  match r.field? key with
  | some step => do
    let reader ← step read
    let ((), tokens) ← Reader.colon tokens
    reader tokens
  | none => do
    let ((), tokens) ← Reader.colon tokens
    let ((), tokens) ← skip tokens
    .ok (read, tokens)

/-- Reads the end of an array whose items have all been taken. -/
def closeArray : Reader Unit
  | .closeBracket :: rest => .ok ((), rest)
  | tokens => .error (Reader.separatorFault tokens)

/-- Reads a record. -/
def reader {δ α : Type} (r : Record δ α) : Reader α
  | .openBrace :: rest => do
    let (read, rest) ← Reader.object r.member r.start rest
    match r.finish read with
    | some value => .ok (value, rest)
    | none => .error .unfit
  | .openBracket :: rest => do
    let ((read, _), rest) ← r.inOrder false rest
    match r.finish read with
    | some value => do
      let ((), rest) ← closeArray rest
      .ok (value, rest)
    | none => .error .unfit
  | tokens => .error (mismatch tokens)

end Record

end SchemaDiagram.Json
