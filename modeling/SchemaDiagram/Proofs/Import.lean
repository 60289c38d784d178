import SchemaDiagram.Import
import SchemaDiagram.Proofs.Schema.Outline
import SchemaDiagram.Proofs.Sql.Names

/-!
# What an imported script keeps

An import turns a script into the canonical text of its schema. The names of tables and columns and
the relationships are the same in the text as in the script, provided that the defaults are quiet
(`Imported.outline_ofSql`). The proviso cannot be dropped, as the text of a default is copied as it
is: a brace in a quoted default ends the table in the schema text
(`Imported.outline_ofSql_braceScript`).
-/

namespace SchemaDiagram.Imported

/-- Neither keyword of the schema text is in the header of an import. -/
theorem sameLetters_sqlHeader : ∀ w ∈ identifiers sqlHeader.toList,
    Text.sameLetters w TableBlock.keyword.letters = false ∧
      Text.sameLetters w Reference.keyword.letters = false := by
  decide +kernel

/-- A script that has a schema is imported, and the text of the import declares the tables of that
schema with the same columns, and its relationships, if the defaults of the script are quiet. -/
theorem outline_ofSql {script : String} {s : Schema} (hparse : Sql.parse script = .ok s)
    (hquiet : ∀ t ∈ s.tables, ∀ c ∈ t.columns, ∀ value ∈ c.defaultValue,
      QuietDefault value.toList) :
    ∃ imported, ofSql script = .ok imported ∧
      (Schema.parse imported.text).outline = s.outline ∧
      (Schema.parse imported.text).relationships = s.relationships := by
  have hschema : s = Sql.schemaOf (Sql.stripComments script.toList) := by
    unfold Sql.parse at hparse
    dsimp only at hparse
    split at hparse
    · cases hparse
    · exact (Except.ok.inj hparse).symm
  have hsafe : LineSafeSchema s := hschema ▸ Sql.lineSafe_schemaOf _
  refine ⟨⟨sqlHeader ++ s.print, none⟩, ?_, ?_⟩
  · unfold ofSql
    rw [hparse]
  · exact Schema.outline_parse_print hsafe hquiet (fun w hw => (sameLetters_sqlHeader w hw).1)
      (fun w hw => (sameLetters_sqlHeader w hw).2) (by decide)

/-- A script with a default that has a bracket, the word of a reference and a line of its own. -/
def quietScript : String :=
  "CREATE TABLE a (x text DEFAULT '[Ref: a\n// >', y int REFERENCES b (id));"

/-- The schema of that script. -/
def quietSchema : Schema :=
  { tables :=
      [⟨"a", [
        { name := "x", type := "text", defaultValue := some "'[Ref: a\n// >'" },
        { name := "y", type := "integer", isForeignKey := true }]⟩]
    relationships := [⟨⟨⟨"a", "y"⟩, ⟨"b", "id"⟩⟩, .manyToOne⟩] }

/-- The columns and the relationship of that script are kept. -/
theorem outline_ofSql_quietScript : Sql.parse quietScript = .ok quietSchema ∧
    ∃ imported, ofSql quietScript = .ok imported ∧
      (Schema.parse imported.text).outline = [("a", ["x", "y"])] ∧
      (Schema.parse imported.text).relationships = [⟨⟨⟨"a", "y"⟩, ⟨"b", "id"⟩⟩, .manyToOne⟩] := by
  have hparse : Sql.parse quietScript = .ok quietSchema := by decide +kernel
  have hquiet : QuietDefault "'[Ref: a\n// >'".toList :=
    ⟨by decide, by decide +kernel, by decide +kernel⟩
  refine ⟨hparse, outline_ofSql hparse fun t ht c hc value hvalue => ?_⟩
  obtain rfl := List.mem_singleton.1 ht
  rcases List.mem_pair.1 hc with rfl | rfl
  · obtain rfl := Option.some.inj hvalue
    exact hquiet
  · cases hvalue

/-- A script with a closing brace in a default. -/
def braceScript : String :=
  "CREATE TABLE t (a text DEFAULT '\x7d', b int);"

/-- The schema of that script. -/
def braceSchema : Schema :=
  { tables :=
      [⟨"t", [
        { name := "a", type := "text", defaultValue := some "'\x7d'" },
        { name := "b", type := "integer" }]⟩]
    relationships := [] }

/-- The second column of that script is lost in the import. -/
theorem outline_ofSql_braceScript : Sql.parse braceScript = .ok braceSchema ∧
    ∃ imported, ofSql braceScript = .ok imported ∧ braceSchema.outline = [("t", ["a", "b"])] ∧
      (Schema.parse imported.text).outline = [("t", ["a"])] := by
  have hparse : Sql.parse braceScript = .ok braceSchema := by decide +kernel
  refine ⟨hparse, ⟨sqlHeader ++ braceSchema.print, none⟩, ?_, rfl, by decide +kernel⟩
  unfold ofSql
  rw [hparse]

end SchemaDiagram.Imported
