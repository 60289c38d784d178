import SchemaDiagram.Character.CaseMap
import SchemaDiagram.Character.Cased

/-!
# Lower and upper case of a text

Characters map one by one, with a single exception: a capital sigma becomes the final small sigma at
the end of a word, that is, after a cased character and not before one, where characters that
Unicode calls case-ignorable are passed over on both sides.
-/

namespace SchemaDiagram.Text

open Character

/-- Whether the first character that is not case-ignorable is a cased one. -/
def startsCased (s : List Char) : Bool :=
  (s.find? fun c => !caseIgnorable.contains c).any cased.contains

/-- The lower case of a text that follows `before`, which is given last character first. -/
def lowerAfter (before : List Char) : List Char → List Char
  | [] => []
  | c :: rest =>
    let image :=
      if c == 'Σ' then [if startsCased before && !startsCased rest then 'ς' else 'σ']
      else toLower c
    image ++ lowerAfter (c :: before) rest

/-- The text in lower case. -/
def lower (s : List Char) : List Char :=
  lowerAfter [] s

/-- The text in upper case. -/
def upper (s : List Char) : List Char :=
  s.flatMap toUpper

end SchemaDiagram.Text
