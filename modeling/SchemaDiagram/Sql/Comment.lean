/-!
# Comments in SQL

A comment runs from two hyphens to the end of the line, or between `/*` and `*/`. The former
leaves its line break behind and the latter a space, so that what stood around a comment stays
apart. Within single quotes nothing begins a comment. A block comment or a quoted text that is not
closed runs to the end.
-/

namespace SchemaDiagram.Sql

/-- Where a character of a script stands. -/
inductive Place where
  /-- Outside quotes and comments. -/
  | code
  /-- Within single quotes. -/
  | quoted
  /-- In a comment that runs to the end of the line. -/
  | lineComment
  /-- In a block comment, right behind an asterisk of it or not. -/
  | blockComment (afterStar : Bool)
deriving DecidableEq, Repr

/-- The rest of a script without its comments, if it begins at the given place. -/
def stripCommentsFrom : Place → List Char → List Char
  | _, [] => []
  | .code, '-' :: '-' :: rest => stripCommentsFrom .lineComment rest
  | .code, '/' :: '*' :: rest => ' ' :: stripCommentsFrom (.blockComment false) rest
  | .code, c :: rest => c :: stripCommentsFrom (if c = '\'' then .quoted else .code) rest
  | .quoted, c :: rest => c :: stripCommentsFrom (if c = '\'' then .code else .quoted) rest
  | .lineComment, c :: rest =>
    if c = '\n' then '\n' :: stripCommentsFrom .code rest else stripCommentsFrom .lineComment rest
  | .blockComment afterStar, c :: rest =>
    if afterStar ∧ c = '/' then stripCommentsFrom .code rest
    else stripCommentsFrom (.blockComment (c = '*')) rest

/-- A script without its comments. -/
def stripComments (script : List Char) : List Char :=
  stripCommentsFrom .code script

end SchemaDiagram.Sql
