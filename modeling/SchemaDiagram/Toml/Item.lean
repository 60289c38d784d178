/-!
# TOML tables

A TOML document is a table, and a table gives items to keys. The document writes its tables in
pieces: by headers, by dotted keys and by inline tables, and an item `Kind` records which of these
made a table, because that decides what may still be added to it. An inline table is complete as
it stands. A table that a header only passes through, on the way to a table within it, may still
get a header of its own. A table made by dotted keys may get more of them. An array of tables
grows by one with each of its headers, and its last element is the one that headers and keys lead
into.
-/

namespace SchemaDiagram.Toml

/-- How a table came about. -/
inductive Kind where
  /-- It is written in braces. -/
  | inline
  /-- It has a header of its own. -/
  | header
  /-- A header leads through it. -/
  | passed
  /-- A dotted key leads through it. -/
  | dotted
deriving DecidableEq, Repr

/-- A value that a key can have. -/
inductive Item where
  | string (value : String)
  | integer (value : Int)
  | float (value : Float)
  | boolean (value : Bool)
  /-- A date, a time of day or both. -/
  | date
  /-- An array written in brackets. -/
  | array (items : List Item)
  /-- A table. -/
  | table (kind : Kind) (entries : List (String × Item))
  /-- The tables of an array whose elements have headers. -/
  | tables (elements : List (List (String × Item)))

/-- The entries of a table. -/
abbrev Table := List (String × Item)

/-- A key with the keys of the tables that lead to it. -/
structure Key where
  /-- The tables that lead to it, outermost first. -/
  path : List String
  /-- The last part. -/
  name : String
deriving DecidableEq, Repr

/-- The table with the entry of the given key replaced. -/
def replace (key : String) (item : Item) (t : Table) : Table :=
  t.map fun (k, x) => if k = key then (k, item) else (k, x)

/-- The list with its last element changed by `f`, which may fail. -/
def changeLast? {α : Type} (f : α → Option α) : List α → Option (List α)
  | [] => none
  | [x] => (f x).map ([·])
  | x :: rest => (changeLast? f rest).map (x :: ·)

/-- The table with an item at a key whose path leads on from it. `mayGrow` says whether the table
itself accepts the item; a table that headers have made does not accept one from outside, but lets
a path pass through it as long as it has no header of its own. -/
def addAt? (name : String) (item : Item) : (mayGrow : Bool) → (path : List String) → Table →
    Option Table
  | mayGrow, [], t =>
    if mayGrow && (t.lookup name).isNone then some (t ++ [(name, item)]) else none
  | _, key :: path, t =>
    match t.lookup key with
    | none => do return t ++ [(key, .table .dotted (← addAt? name item true path []))]
    | some (.table .dotted u) => do
      return replace key (.table .dotted (← addAt? name item true path u)) t
    | some (.table .passed u) => do
      return replace key (.table .passed (← addAt? name item false path u)) t
    | some (.tables elements) => do
      return replace key (.tables (← changeLast? (addAt? name item false path) elements)) t
    | some _ => none

/-- The table with the entries that keys give to it, in order. -/
def addAll? (t : Table) (entries : List (Key × Item)) : Option Table :=
  entries.foldlM (fun t (key, item) => addAt? key.name item true key.path t) t

/-- The table with the table at the end of a path changed by `f`. Tables that are not there yet are
made on the way. -/
def changeAt? (f : Table → Option Table) : (path : List String) → Table → Option Table
  | [], t => f t
  | key :: path, t =>
    match t.lookup key with
    | none => do return t ++ [(key, .table .passed (← changeAt? f path []))]
    | some (.table kind u) =>
      if kind = .inline then none
      else do return replace key (.table kind (← changeAt? f path u)) t
    | some (.tables elements) => do
      return replace key (.tables (← changeLast? (changeAt? f path) elements)) t
    | some _ => none

/-- What stands above entries. -/
inductive Header where
  /-- Nothing: the entries are those of the document itself. -/
  | root
  /-- A table. -/
  | table (key : Key)
  /-- A further element of an array of tables. -/
  | element (key : Key)
deriving DecidableEq, Repr

/-- The document with the entries below a header. -/
def addSection? (document : Table) (header : Header) (entries : List (Key × Item)) :
    Option Table :=
  match header with
  | .root => addAll? document entries
  | .table key =>
    changeAt? (fun t => match t.lookup key.name with
      | none => do return t ++ [(key.name, .table .header (← addAll? [] entries))]
      | some (.table .passed u) => do
        return replace key.name (.table .header (← addAll? u entries)) t
      | some _ => none) key.path document
  | .element key =>
    changeAt? (fun t => match t.lookup key.name with
      | none => do return t ++ [(key.name, .tables [← addAll? [] entries])]
      | some (.tables elements) => do
        return replace key.name (.tables (elements ++ [← addAll? [] entries])) t
      | some _ => none) key.path document

end SchemaDiagram.Toml
