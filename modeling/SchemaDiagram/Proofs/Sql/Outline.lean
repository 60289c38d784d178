import SchemaDiagram.Proofs.Schema.Outline
import SchemaDiagram.Proofs.Sql.Names
import SchemaDiagram.Proofs.Sql.RoundTrip

/-!
# The outline of a schema through SQL

A schema that can be written in SQL comes back from its script with the same outline, and its
relationships come back many-to-one between the same columns (`givenSchema_comesBack`). The defaults
come back as they were, and those are quiet in schema text (`WritableDefault.quiet`), so the outline
also comes back when what was read is written as schema text and read again.
-/

namespace SchemaDiagram.Sql

open Character

namespace WritableDefault

variable {v : List Char}

/-- A default is its own expression, or that of a call in backticks. -/
theorem eq_expression (hv : WritableDefault v) :
    v = defaultExpression v ∨ v = '\x60' :: defaultExpression v ++ ['\x60'] := by
  cases hv with
  | quoted hw => exact .inl rfl
  | number hsign hne hdigits hfraction =>
    rw [expression_number ⟨hsign, hne, hdigits, hfraction⟩]
    exact .inl rfl
  | @call f hne hf =>
    rw [expression_call]
    exact .inr (by simp)

/-- No mark but those of expressions and the backtick is in a default. -/
theorem not_mem_default (hv : WritableDefault v) {c : Char} (hident : isIdent c = false)
    (hmark : c ∉ ['\'', '-', '.', '(', ')']) (hbacktick : c ≠ '\x60') : c ∉ v := by
  have hexpression := hv.not_mem_expression hident hmark
  rcases hv.eq_expression with heq | heq
  · rw [heq]
    exact hexpression
  · rw [heq]
    simp [hexpression, hbacktick]

/-- A default that can be written in SQL is quiet in schema text. -/
theorem quiet (hv : WritableDefault v) : QuietDefault v := by
  constructor
  case brace => exact hv.not_mem_default (by decide) (by decide) (by decide)
  case lines =>
    have hbreak : '\n' ∉ v ++ [']'] := by
      simp [hv.not_mem_default (c := '\n') (by decide) (by decide) (by decide)]
    rw [Text.lines_of_not_mem hbreak]
    simp
  case references =>
    have hcolon : ':' ∉ v := hv.not_mem_default (by decide) (by decide) (by decide)
    exact (NoReference.of_not_mem hcolon).constructs_eq_nil

end WritableDefault

/-! ## What comes back -/

/-- The names and defaults of the tables of a schema. -/
def entries (s : Schema) : List (String × List (String × Option String)) :=
  s.tables.map fun t => (t.name, t.columns.map entry)

/-- Flagging foreign keys changes neither names nor defaults. -/
theorem entries_markForeignKeys (s : Schema) : entries s.markForeignKeys = entries s := by
  refine Schema.map_markForeignKeys (fun t => ?_) s
  show (t.name, (t.columns.map _).map entry) = _
  rw [List.map_map]
  rfl

/-- The names of a schema are among its names and defaults. -/
theorem outline_eq (s : Schema) :
    s.outline = (entries s).map fun e => (e.1, e.2.map Prod.fst) := by
  unfold Schema.outline entries
  rw [List.map_map]
  refine List.map_congr_left fun t _ => ?_
  show _ = (t.name, (t.columns.map entry).map Prod.fst)
  rw [List.map_map]
  rfl

variable {s : Schema}

/-- What comes back from the script of a schema. -/
structure ComesBack (s s' : Schema) : Prop where
  /-- The names of the tables and of their columns are the same. -/
  outline : s'.outline = s.outline
  /-- The relationships connect the same columns, many-to-one. -/
  relationships : s'.relationships = s.relationships.map fun r =>
    manyToOne r.endpoints.source r.endpoints.target
  /-- Names and types can be read back from schema text. -/
  lineSafe : LineSafeSchema s'
  /-- Defaults are quiet in schema text. -/
  quiet : ∀ t ∈ s'.tables, ∀ c ∈ t.columns, ∀ value ∈ c.defaultValue, QuietDefault value.toList

/-- If all tables have columns, names and defaults are read back. -/
theorem entries_givenSchema (hs : WritableSchema s) (hcolumns : ∀ t ∈ s.tables, t.columns ≠ [])
    (d : Dialect) : entries (givenSchema d s) = entries s := by
  have hall : s.tables.filter (·.columns ≠ []) = s.tables :=
    List.filter_eq_self.2 fun t ht => decide_eq_true (hcolumns t ht)
  unfold givenSchema
  rw [entries_markForeignKeys, hall]
  unfold entries
  rw [List.map_map]
  refine List.map_congr_left fun t ht => ?_
  show ((givenTable d t).name, _) = _
  rw [map_entry_givenTable (hs.tables t ht)]
  rfl

/-- A schema all of whose tables have columns comes back from its script. -/
theorem givenSchema_comesBack (hs : WritableSchema s) (hcolumns : ∀ t ∈ s.tables, t.columns ≠ [])
    (d : Dialect) : ComesBack s (givenSchema d s) := by
  have hentries := entries_givenSchema hs hcolumns d
  constructor
  case outline => rw [outline_eq, outline_eq, hentries]
  case relationships => rfl
  case lineSafe =>
    rw [← schemaOf_bareScript_of_writable hs]
    exact lineSafe_schemaOf _
  case quiet =>
    intro t' ht' c' hc' value hvalue
    -- The default is that of a column of the schema.
    have hmem : (t'.name, t'.columns.map entry) ∈ entries s := by
      rw [← hentries]
      exact List.mem_map_of_mem ht'
    obtain ⟨t, ht, heq⟩ := List.mem_map.1 hmem
    have hentry : entry c' ∈ t.columns.map entry := by
      rw [(Prod.mk.inj heq).2]
      exact List.mem_map_of_mem hc'
    obtain ⟨c, hc, hc'⟩ := List.mem_map.1 hentry
    have hdefault : c.defaultValue = some value := (Prod.mk.inj hc').2.trans hvalue
    exact (((hs.tables t ht).columns c hc).default value hdefault).quiet

/-- The script of a schema all of whose tables have columns is read. -/
theorem parse_print_of_writable (hs : WritableSchema s) (hne : s.tables ≠ [])
    (hcolumns : ∀ t ∈ s.tables, t.columns ≠ []) (d : Dialect) :
    parse (print d s) = .ok (givenSchema d s) := by
  have hscript : schemaOf (stripComments (print d s).toList) = givenSchema d s := by
    calc schemaOf (stripComments (print d s).toList)
        = schemaOf ('\n' :: stripComments (print d s).toList) := (schemaOf_cons _).symm
      _ = schemaOf (stripCommentsFrom .code ('\n' :: (print d s).toList)) := by
        rw [strip_cons rfl]
        rfl
      _ = schemaOf (bareScript d s) := by rw [strip_print hs d hne]
      _ = givenSchema d s := schemaOf_bareScript_of_writable hs d
  have htables : (givenSchema d s).tables ≠ [] := by
    intro hnil
    have hentries := entries_givenSchema hs hcolumns d
    unfold entries at hentries
    rw [hnil, List.map_nil] at hentries
    exact hne (List.map_eq_nil_iff.1 hentries.symm)
  unfold parse
  simp only [hscript]
  rw [if_neg htables]

end SchemaDiagram.Sql
