import SchemaDiagram.Proofs.Schema.ForeignKey
import SchemaDiagram.Proofs.Sql.Confined

/-!
# The foreign keys of a script

A script declares tables and relationships without flags (`Sql.declaredBy`), and foreign keys are
flagged in what it declares, as in what a schema text declares. So whichever way a schema is read,
its flags say what its relationships say (`flagsExact_read`).
-/

namespace SchemaDiagram

namespace Sql

/-- The tables and relationships that a script without comments declares. -/
def declaredBy (script : List Char) : Schema where
  tables := ((CreateTable.findAll script).map CreateTable.table).filter (·.columns ≠ [])
  relationships :=
    (CreateTable.findAll script).flatMap CreateTable.relationships ++ alteredForeignKeys script

/-- What a script declares has the flags of foreign keys set last. -/
theorem schemaOf_eq (script : List Char) : schemaOf script = (declaredBy script).markForeignKeys :=
  rfl

/-- No column of a definition has the flag. -/
theorem isForeignKey_of_columnDefinition? {s : List Char} {found : Column × Option ColumnRef}
    (h : columnDefinition? s = some found) : found.1.isForeignKey = false := by
  rw [columnDefinition?_eq, Option.map_eq_some_iff] at h
  obtain ⟨head, -, rfl⟩ := h
  rfl

/-- No table of a statement has the flag in one of its columns. -/
theorem CreateTable.unflagged_table (t : CreateTable) : t.table.unflagged = t.table := by
  have hcolumns : ∀ c ∈ t.columns.map (·.1), c.isForeignKey = false := by
    intro c hc
    obtain ⟨found, hfound, rfl⟩ := List.mem_map.1 hc
    obtain ⟨piece, -, hpiece⟩ := List.mem_filterMap.1 hfound
    exact isForeignKey_of_columnDefinition? hpiece
  have hkeys (keys : List (List Char)) {columns : List Column}
      (h : ∀ c ∈ columns, c.isForeignKey = false) :
      ∀ c ∈ keys.foldl markPrimaryKey columns, c.isForeignKey = false := by
    induction keys generalizing columns with
    | nil => exact h
    | cons key keys ih =>
      have hkey : ∀ c ∈ markPrimaryKey columns key, c.isForeignKey = false := by
        unfold markPrimaryKey
        refine forall_mem_updateFirst (fun c hc => ?_) h
        exact hc
      exact ih hkey
  have hsame : ∀ c ∈ t.table.columns, ({ c with isForeignKey := false } : Column) = c := by
    intro c hc
    rw [← hkeys t.primaryKeys hcolumns c hc]
  exact congrArg (Table.mk _) ((List.map_congr_left hsame).trans (List.map_id _))

/-- Nothing that a script declares has the flag. -/
theorem unflagged_declaredBy (script : List Char) :
    (declaredBy script).unflagged = declaredBy script := by
  have hsame : ∀ t ∈ (declaredBy script).tables, t.unflagged = t := by
    intro t ht
    obtain ⟨statement, -, rfl⟩ := List.mem_map.1 (List.mem_filter.1 ht).1
    exact statement.unflagged_table
  exact congrArg (Schema.mk · _) ((List.map_congr_left hsame).trans (List.map_id _))

/-- The schema of a script is what it declares, with flags, if there is a table in it. -/
theorem eq_of_parse {script : String} {s : Schema} (h : parse script = .ok s) :
    s = (declaredBy (stripComments script.toList)).markForeignKeys ∧ s.tables ≠ [] := by
  by_cases hnil : (schemaOf (stripComments script.toList)).tables = []
  · rw [parse, if_pos hnil] at h
    cases h
  · rw [parse, if_neg hnil] at h
    cases h
    exact ⟨schemaOf_eq _, hnil⟩

end Sql

/-! ## Schemas that are read -/

/-- In the schema of a schema text and in the schema of a script the flags say what the
relationships say. -/
theorem flagsExact_read : (∀ text, (Schema.parse text).FlagsExact) ∧
    ∀ script s, Sql.parse script = .ok s → s.FlagsExact := by
  constructor
  · intro text
    rw [Schema.parse_eq]
    exact Schema.flagsExact_markForeignKeys (Schema.unflagged_declaredBy text.toList)
  · intro script s h
    obtain ⟨rfl, -⟩ := Sql.eq_of_parse h
    exact Schema.flagsExact_markForeignKeys (Sql.unflagged_declaredBy _)

/-- A script with two tables of a name, one of which has two columns of a name. -/
def repeatedScript : String :=
  "CREATE TABLE a (x int, x int REFERENCES b (id), y int);\n" ++
    "CREATE TABLE a (y int REFERENCES b (id));\nALTER TABLE c ADD FOREIGN KEY (z) REFERENCES a (x);"

/-- The schema of that script: in the first table the first `x` is flagged, and also `y`. -/
def repeatedSchema : Schema where
  tables := [
    ⟨"a", [{ name := "x", type := "integer", isForeignKey := true },
      { name := "x", type := "integer" },
      { name := "y", type := "integer", isForeignKey := true }]⟩,
    ⟨"a", [{ name := "y", type := "integer" }]⟩]
  relationships := [
    ⟨⟨⟨"a", "x"⟩, ⟨"b", "id"⟩⟩, .manyToOne⟩,
    ⟨⟨⟨"a", "y"⟩, ⟨"b", "id"⟩⟩, .manyToOne⟩,
    ⟨⟨⟨"c", "z"⟩, ⟨"a", "x"⟩⟩, .manyToOne⟩]

/-- The flags of that schema are exact. -/
theorem flagsExact_read_repeatedScript :
    Sql.parse repeatedScript = .ok repeatedSchema ∧ repeatedSchema.FlagsExact := by
  have hparse : Sql.parse repeatedScript = .ok repeatedSchema := by decide +kernel
  exact ⟨hparse, flagsExact_read.2 repeatedScript repeatedSchema hparse⟩

end SchemaDiagram
