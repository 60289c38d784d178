import SchemaDiagram.Character.Basic

/-!
# Trimming and cutting text

Text is handled as a list of characters. This module removes blanks from its ends (`trim`), cuts it
into words between blanks (`words`) and looks for one text inside another (`occursIn`).
-/

namespace SchemaDiagram.Text

open Character

/-- The text without the blanks it starts with. -/
def trimStart (s : List Char) : List Char :=
  s.dropWhile isBlank

/-- The text without the blanks it ends with. -/
def trimEnd (s : List Char) : List Char :=
  (s.reverse.dropWhile isBlank).reverse

/-- The text without the blanks at its two ends. -/
def trim (s : List Char) : List Char :=
  trimEnd (trimStart s)

/-- The nonempty pieces between the characters that `separates` accepts. -/
def pieces (separates : Char → Bool) (s : List Char) : List (List Char) :=
  (s.splitOnP separates).filter (· ≠ [])

/-- The words of a text: its nonempty pieces between blanks. -/
def words (s : List Char) : List (List Char) :=
  pieces isBlank s

/-- Whether `part` occurs in the list as consecutive elements. -/
def occursIn {α : Type} [BEq α] (part : List α) : List α → Bool
  | [] => part.isEmpty
  | c :: rest => part.isPrefixOf (c :: rest) || occursIn part rest

/-- Whether two texts are equal when the case of ASCII letters is ignored. -/
def sameLetters (a b : List Char) : Bool :=
  a.map Char.toLower == b.map Char.toLower

end SchemaDiagram.Text
