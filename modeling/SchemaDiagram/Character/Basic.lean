import SchemaDiagram.Character.Alphabetic
import SchemaDiagram.Character.Mark
import SchemaDiagram.Character.Number

/-!
# Classes of characters

The classes that the readers ask about: blanks (`isBlank`), the characters of an identifier
(`isIdent`) and the characters of a word (`isWord`), whose edges are the word boundaries. The three
follow Unicode properties; below code point 128 they are decided without the tables.
-/

namespace SchemaDiagram.Character

/-- White space: the Unicode property White_Space. -/
def isBlank (c : Char) : Bool :=
  let x := c.toNat
  (9 ≤ x && x ≤ 13) || x == 0x20 || x == 0x85 || x == 0xA0 || x == 0x1680 ||
    (0x2000 ≤ x && x ≤ 0x200A) || x == 0x2028 || x == 0x2029 || x == 0x202F || x == 0x205F ||
    x == 0x3000

/-- The characters of identifiers: letters, numbers of every kind, and the underscore. -/
def isIdent (c : Char) : Bool :=
  if c.toNat < 0x80 then c.isAlphanum || c == '_'
  else alphabetic.contains c || decimalDigit.contains c || otherNumber.contains c

/-- Connectors such as the underscore, which hold a word together. -/
def isConnector (c : Char) : Bool :=
  let x := c.toNat
  x == 0x5F || x == 0x203F || x == 0x2040 || x == 0x2054 || x == 0xFE33 || x == 0xFE34 ||
    (0xFE4D ≤ x && x ≤ 0xFE4F) || x == 0xFF3F

/-- The two invisible characters that steer how their neighbours join. -/
def isJoinControl (c : Char) : Bool :=
  c.toNat == 0x200C || c.toNat == 0x200D

/-- The characters of words: letters, marks, decimal digits, connectors and join controls. -/
def isWord (c : Char) : Bool :=
  if c.toNat < 0x80 then c.isAlphanum || c == '_'
  else alphabetic.contains c || mark.contains c || decimalDigit.contains c || isConnector c ||
    isJoinControl c

/-- Whether a word begins or ends between two neighbours, of which either may be missing. -/
def isWordBoundary (before after : Option Char) : Bool :=
  before.any isWord != after.any isWord

end SchemaDiagram.Character
