import SchemaDiagram.Settings
import SchemaDiagram.Toml.Read

/-!
# Reading settings

Settings are read from a TOML document with the tables `canvas`, `sync` and `export`. What is
missing has its default, and keys that are not known are passed over. The settings of a table may
also be listed in order in an array.
-/

namespace SchemaDiagram

open Toml (Item)

/-- The settings in a text are not in order. -/
structure InvalidSettings where
deriving DecidableEq, Repr

/-- The message about settings that are not in order. -/
def InvalidSettings.message (_ : InvalidSettings) : String :=
  "invalid config: not TOML or a value of the wrong kind"

namespace Settings

/-! ## Single values -/

/-- A number. -/
def float? : Item → Option Float
  | .float x => some x
  | .integer n => some (Float.ofInt n)
  | _ => none

/-- A number of things. -/
def count? : Item → Option Nat
  | .integer n => if 0 ≤ n then some n.toNat else none
  | _ => none

/-- A truth value. -/
def boolean? : Item → Option Bool
  | .boolean b => some b
  | _ => none

/-- Whether an item holds nothing. -/
def isEmpty : Item → Bool
  | .array items => items.isEmpty
  | .table _ entries => entries.isEmpty
  | .tables elements => elements.isEmpty
  | _ => false

/-- A dialect: its name, or a table with its name as the only key, under which there is nothing. -/
def dialect? : Item → Option Sql.Dialect
  | .string name => Sql.Dialect.ofName? name
  | .table _ [(name, item)] => if isEmpty item then Sql.Dialect.ofName? name else none
  | _ => none

/-! ## Tables -/

/-- The settings that an item gives to names: as a table, or as an array in the order of the
names. A date counts as a table without any of them. -/
def fields? (names : List String) : Item → Option (List (String × Item))
  | .table _ entries => some entries
  | .array items => some (names.zip items)
  | .tables elements => some (names.zip (elements.map (.table .header)))
  | .date => some []
  | _ => none

/-- The setting of a name, or its default if it is missing. -/
def field? {α : Type} (fields : List (String × Item)) (name : String) (value? : Item → Option α)
    (default : α) : Option α :=
  match fields.lookup name with
  | none => some default
  | some item => value? item

/-- The settings of the canvas in an item. -/
def canvas? (item : Item) : Option CanvasSettings := do
  let standard : CanvasSettings := {}
  let names := ["node_width", "grid_origin_x", "grid_origin_y", "grid_step_x", "grid_step_y",
    "grid_columns"]
  let fields ← fields? names item
  return {
    nodeWidth := ← field? fields "node_width" float? standard.nodeWidth
    gridOriginX := ← field? fields "grid_origin_x" float? standard.gridOriginX
    gridOriginY := ← field? fields "grid_origin_y" float? standard.gridOriginY
    gridStepX := ← field? fields "grid_step_x" float? standard.gridStepX
    gridStepY := ← field? fields "grid_step_y" float? standard.gridStepY
    gridColumns := ← field? fields "grid_columns" count? standard.gridColumns }

/-- The only setting of a table, or its default. -/
def single? {α : Type} (name : String) (value? : Item → Option α) (default : α) (item : Item) :
    Option α := do
  field? (← fields? [name] item) name value? default

/-- The settings in a TOML table. -/
def ofTable? (t : Toml.Table) : Option Settings := do
  let standard : Settings := {}
  let propagate := standard.propagateConnections
  let dialect := standard.defaultDialect
  return {
    canvas := ← field? t "canvas" canvas? standard.canvas
    propagateConnections :=
      ← field? t "sync" (single? "propagate_connections" boolean? propagate) propagate
    defaultDialect := ← field? t "export" (single? "default_dialect" dialect? dialect) dialect }

/-- The settings in a text. -/
def parse (text : String) : Except InvalidSettings Settings :=
  match Toml.read? text >>= ofTable? with
  | some settings => .ok settings
  | none => .error ⟨⟩

end Settings

end SchemaDiagram
