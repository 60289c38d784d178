import SchemaDiagram.Schema.Block
import SchemaDiagram.Schema.Print
import SchemaDiagram.Schema.Reference

/-!
# Editing schema text

Gestures on the canvas change the schema text itself, and the schema is then read from it again.
Two edits are enough: `SchemaText.removeTable` takes a table and the references to it out of a
text, and `SchemaText.appendReference` adds a reference at its end. Everything else in the text
stays as it is, except that removing a table also shortens long runs of line breaks.
-/

namespace SchemaDiagram.SchemaText

open Character

/-! ## Lines that name a table -/

/-- The lines of a text, each with the line break that ends it. -/
def brokenLines : List Char → List (List Char)
  | [] => []
  | c :: rest =>
    if c = '\n' then ['\n'] :: brokenLines rest
    else match brokenLines rest with
      | [] => [[c]]
      | line :: lines => (c :: line) :: lines

/-- Whether `name` stands at the front of `s`, with a word boundary on both sides, when `before`
comes before `s`. -/
def isWordAt (name : List Char) (before : Option Char) (s : List Char) : Bool :=
  match name.isPrefixOf? s with
  | none => false
  | some rest =>
    isWordBoundary before s.head? && isWordBoundary (name.getLast?.or before) rest.head?

/-- Whether `name` stands anywhere in `s` as a word, when `before` comes before `s`. -/
def hasWord (name : List Char) (before : Option Char) : List Char → Bool
  | [] => isWordAt name before []
  | c :: rest => isWordAt name before (c :: rest) || hasWord name (some c) rest

/-- Whether a line is a reference that has `name` as a word behind its colon. Blanks may precede the
keyword and the colon. -/
def isReferenceTo (name line : List Char) : Bool :=
  match Scan.letters? Reference.keyword.letters (Scan.skipBlanks line) with
  | none => false
  | some rest =>
    match Scan.char? ':' (Scan.skipBlanks rest) with
    | none => false
    | some rest => hasWord name (some ':') rest

/-! ## Removing a table -/

/-- The text without its blocks for the table of the given name. -/
def cutBlocks (name text : List Char) : List Char :=
  ((TableBlock.findAll text).filter (·.value.name = name)).foldr Occurrence.cutFrom text

/-- The text without the lines that refer to the table of the given name. -/
def dropReferences (name text : List Char) : List Char :=
  ((brokenLines text).filter fun line => !isReferenceTo name line).flatten

/-- The text with every run of more than two line breaks shortened to two, if `run` line breaks come
before it. -/
def squeezeBreaks (run : Nat) : List Char → List Char
  | [] => []
  | c :: rest =>
    if c = '\n' then
      if run < 2 then '\n' :: squeezeBreaks (run + 1) rest else squeezeBreaks run rest
    else c :: squeezeBreaks 0 rest

/-- The text without the table of the given name: without its blocks, and without the lines that
refer to it. The lines are looked for by the name alone, however long it is. (A regular expression is
not compiled beyond a size of some megabytes, and then the lines stay. A name of several hundred
kilobytes that would come to that is not told apart here.) -/
def removeTable (text name : String) : String :=
  String.ofList
    (squeezeBreaks 0 (dropReferences name.toList (cutBlocks name.toList text.toList)))

/-! ## Adding a reference -/

/-- The text with a line break at its end, unless it is empty. -/
def endLine (text : List Char) : List Char :=
  match text.getLast? with
  | none => text
  | some c => if c = '\n' then text else text ++ ['\n']

/-- The text with a line for the relationship at its end. -/
def appendReference (text : String) (r : Relationship) : String :=
  String.ofList (endLine text.toList ++ r.line)

end SchemaDiagram.SchemaText
