/-!
# Handles

Each column of a node has four handles at which edges can be attached: one that goes out and one
that comes in on either side. The name of a handle is the name of its column, a hyphen and the
suffix of its kind, and the kinds with the longer suffixes are looked for first.
-/

namespace SchemaDiagram

/-- The kind of a handle: its side and its direction. -/
inductive Handle where
  /-- On the left, coming in. -/
  | left
  /-- On the left, going out. -/
  | leftSource
  /-- On the right, going out. -/
  | right
  /-- On the right, coming in. -/
  | rightTarget
deriving DecidableEq, Repr

namespace Handle

/-- What marks the kind in the name of a handle. -/
def suffix : Handle → String
  | left => "left"
  | leftSource => "left-source"
  | right => "right"
  | rightTarget => "right-target"

/-- Whether edges go out from the handle. -/
def isSource : Handle → Bool
  | leftSource | right => true
  | left | rightTarget => false

/-- The name of the handle of a column. -/
def id (h : Handle) (column : String) : String :=
  column ++ "-" ++ h.suffix

/-- The column whose handle of this kind has the given name. -/
def column? (h : Handle) (id : String) : Option String :=
  match List.isSuffixOf? ('-' :: h.suffix.toList) id.toList with
  | some [] | none => none
  | some column => some (String.ofList column)

/-- The column and the kind of the handle of the given name. -/
def parse? (id : String) : Option (String × Handle) :=
  [leftSource, rightTarget, left, right].findSome? fun h => (h.column? id).map (·, h)

end Handle

/-- The names of the handles that an edge is attached to. -/
structure Handles where
  /-- The handle that it goes out from. -/
  source : String
  /-- The handle that it comes in at. -/
  target : String
deriving DecidableEq, Repr

end SchemaDiagram
