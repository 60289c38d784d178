import SchemaDiagram.Proofs.Import
import SchemaDiagram.Proofs.Sql.Outline
import SchemaDiagram.Proofs.Workspace.Propagation

/-!
# A diagram through SQL and back

A diagram that is exported to SQL and imported again stays where it is: a node is known by the name
of its table and an edge by the columns that it connects, and those come back
(`Workspace.sqlRoundTrip_run`). What SQL or schema text does not give back, such as types,
cardinalities and notes, may change.
-/

namespace SchemaDiagram

/-- What a node shows that does not depend on the types of its columns: its name, its place and the
names of its columns. -/
def Node.outline (n : Node) : String × Position × List String :=
  (n.id, n.position, n.columns.map Column.name)

namespace Canvas

variable {c : Canvas} {schema schema' : Schema}

/-- Derived edges between the same columns have the same identifiers. -/
theorem map_id_derivedEdges (c : Canvas) :
    c.derivedEdges.map Edge.id = (c.derivedEdges.map Edge.endpoints).map Edge.derivedId := by
  rw [List.map_map]
  refine List.map_congr_left fun e he => ?_
  have hderived : e.isManual = false := by simpa using (List.mem_filter.1 he).2
  exact Edge.id_of_derived hderived

/-- The derived edges of a canvas that follows a schema do not depend on cardinalities. -/
theorem map_endpoints_derivedEdges_sync (c other : Canvas)
    (h : schema'.relationships.map Relationship.endpoints =
      schema.relationships.map Relationship.endpoints) :
    (c.sync schema').derivedEdges.map Edge.endpoints =
      (other.sync schema).derivedEdges.map Edge.endpoints := by
  have hfirsts (c : Canvas) (schema : Schema) : (c.sync schema).derivedEdges.map Edge.endpoints =
      keepFirst id (schema.relationships.map Relationship.endpoints) := by
    rw [map_endpoints_derivedEdges, shownRelationships_sync, ← keepFirst_eq_firsts, keepFirst_map]
    rfl
  rw [hfirsts, hfirsts, h]

/-- A canvas that shows a schema keeps its nodes, but for the types of columns, when it follows one
with the same outline. -/
theorem map_outline_nodes_sync (hids : c.ids.Nodup) (hshows : c.Shows schema)
    (houtline : schema'.outline = schema.outline) :
    (c.sync schema').nodes.map Node.outline = c.nodes.map Node.outline := by
  let place (e : String × List String) : String × Position × List String :=
    (e.1, c.positionFor 0 e.1, e.2)
  -- What is looked at of the node for a table is in the outline.
  have hplace (schema : Schema) :
      ((keepFirst Table.name schema.tables).map c.nodeFor).map Node.outline =
        (keepFirst Prod.fst schema.outline).map place := by
    unfold Schema.outline
    rw [keepFirst_map, List.map_map, List.map_map]
    rfl
  have hnames : ∀ t ∈ keepFirst Table.name schema'.tables, t.name ∈ c.ids := by
    have hkeep (schema : Schema) : (keepFirst Table.name schema.tables).map Table.name =
        (keepFirst Prod.fst schema.outline).map Prod.fst := by
      unfold Schema.outline
      rw [keepFirst_map, List.map_map]
      rfl
    have hids : c.ids = (keepFirst Table.name schema'.tables).map Table.name := by
      calc c.ids = c.shownTables.map Table.name := by
            unfold shownTables
            rw [List.map_map]
            rfl
        _ = (keepFirst Table.name schema.tables).map Table.name := by
          rw [hshows.tables, keepFirst_eq_firsts]
        _ = (keepFirst Table.name schema'.tables).map Table.name := by
          rw [hkeep, hkeep, houtline]
    intro t ht
    rw [hids]
    exact List.mem_map_of_mem ht
  have hnodes : (c.sync schema').nodes = (keepFirst Table.name schema'.tables).map c.nodeFor :=
    nodesFor_eq_map hnames
  have hstays : c.nodes = (keepFirst Table.name schema.tables).map c.nodeFor := by
    rw [keepFirst_eq_firsts, ← hshows.tables, map_nodeFor_shownTables hids]
  rw [hnodes, hstays, hplace, hplace, houtline]

end Canvas

/-- The schemas whose diagrams stay where they are when they are exported to SQL and imported
again. -/
structure Schema.Exportable (s : Schema) : Prop where
  /-- There is a table. -/
  tables_ne_nil : s.tables ≠ []
  /-- Every table has a column. -/
  columns_ne_nil : ∀ t ∈ s.tables, t.columns ≠ []
  /-- Types have characters. -/
  type_ne_nil : ∀ t ∈ s.tables, ∀ c ∈ t.columns, c.type.toList ≠ []
  /-- Types consist of identifier characters of ASCII. -/
  type : ∀ t ∈ s.tables, ∀ c ∈ t.columns, ∀ x ∈ c.type.toList, Character.isAsciiIdent x = true
  /-- Defaults are names in quotes, decimal numbers and calls. -/
  default : ∀ t ∈ s.tables, ∀ c ∈ t.columns, ∀ value ∈ c.defaultValue,
    Sql.WritableDefault value.toList

/-- An exportable schema whose names are identifiers can be written in SQL. -/
theorem Schema.Exportable.writable {s : Schema} (hs : s.Exportable) (hnames : s.IdentifierNames) :
    Sql.WritableSchema s := by
  constructor
  · intro t ht
    obtain ⟨hname, hcolumns⟩ := hnames.tables t ht
    exact ⟨hname, fun c hc => ⟨hcolumns c hc, hs.type_ne_nil t ht c hc, hs.type t ht c hc,
      fun value hvalue => hs.default t ht c hc value hvalue⟩⟩
  · intro r hr
    obtain ⟨hsourceTable, hsourceColumn, htargetTable, htargetColumn⟩ := hnames.relationships r hr
    exact ⟨hsourceTable, hsourceColumn, htargetTable, htargetColumn⟩

namespace Workspace

variable {w : Workspace}

/-- A workspace with an exportable schema can import its script, and the text that it then has
declares the same names and connects the same columns. -/
theorem importContent_exportSql (hs : w.schema.Exportable) (hnames : w.schema.IdentifierNames)
    (d : Sql.Dialect) : ∃ text,
      w.importContent .sql (w.exportSql d) = (.ok (), w.setText text) ∧
      (Schema.parse text).outline = w.schema.outline ∧
      (Schema.parse text).relationships.map Relationship.endpoints =
        w.schema.relationships.map Relationship.endpoints := by
  have hwritable := hs.writable hnames
  have hparse : Sql.parse (w.exportSql d) = .ok (Sql.givenSchema d w.schema) :=
    Sql.parse_print_of_writable hwritable hs.tables_ne_nil hs.columns_ne_nil d
  obtain ⟨houtline, hrelationships, hsafe, hquiet⟩ :=
    Sql.givenSchema_comesBack hwritable hs.columns_ne_nil d
  let text := Imported.sqlHeader ++ (Sql.givenSchema d w.schema).print
  obtain ⟨houtline', hrelationships'⟩ : (Schema.parse text).outline = _ ∧
      (Schema.parse text).relationships = _ :=
    Schema.outline_parse_print hsafe hquiet (fun w hw => (Imported.sameLetters_sqlHeader w hw).1)
      (fun w hw => (Imported.sameLetters_sqlHeader w hw).2) (by decide)
  refine ⟨text, ?_, ?_, ?_⟩
  · have himported : Imported.ofContent .sql (w.exportSql d) = .ok ⟨text, none⟩ := by
      show Imported.ofSql (w.exportSql d) = _
      unfold Imported.ofSql
      rw [hparse]
    unfold importContent
    rw [himported]
    rfl
  · rw [houtline', houtline]
  · rw [hrelationships', hrelationships, List.map_map]
    rfl

/-- What stays of a workspace that is exported to SQL and imported again, in the workspace that it
becomes. -/
structure StaysInPlace (w w' : Workspace) : Prop where
  /-- The nodes have the same names, places and columns, in the same order. -/
  nodes : w'.canvas.nodes.map Node.outline = w.canvas.nodes.map Node.outline
  /-- The derived edges connect what they connect on any canvas that follows the old schema. -/
  endpoints : ∀ c : Canvas, w'.canvas.derivedEdges.map Edge.endpoints =
    (c.sync w.schema).derivedEdges.map Edge.endpoints
  /-- They have the same identifiers. -/
  ids : ∀ c : Canvas, w'.canvas.derivedEdges.map Edge.id =
    (c.sync w.schema).derivedEdges.map Edge.id

/-- Nodes and derived edges stay when the text changes to one that declares the same names and
connects the same columns. -/
theorem staysInPlace_setText (hw : InStep w) (hids : w.canvas.ids.Nodup) {text : String}
    (houtline : (Schema.parse text).outline = w.schema.outline)
    (hrelationships : (Schema.parse text).relationships.map Relationship.endpoints =
      w.schema.relationships.map Relationship.endpoints) : StaysInPlace w (w.setText text) := by
  have hendpoints (c : Canvas) :=
    Canvas.map_endpoints_derivedEdges_sync w.canvas c hrelationships
  constructor
  case nodes => exact Canvas.map_outline_nodes_sync hids hw.shows houtline
  case endpoints => exact hendpoints
  case ids =>
    intro c
    rw [Canvas.map_id_derivedEdges, Canvas.map_id_derivedEdges, ← hendpoints c]
    rfl

/-- A workspace that operations lead to can be exported to SQL and imported again if its schema is
exportable, and its diagram stays in place. -/
theorem sqlRoundTrip_run (settings : Settings) (text : String) (operations : List Operation)
    (hs : ((withText settings text).run operations).schema.Exportable) (d : Sql.Dialect) :
    let w := (withText settings text).run operations
    (w.importContent .sql (w.exportSql d)).1 = .ok () ∧
      StaysInPlace w (w.importContent .sql (w.exportSql d)).2 := by
  intro w
  have hreached := reached_run settings text operations
  have hnames : w.schema.IdentifierNames := by
    rw [hreached.inStep.schema]
    exact Schema.identifierNames_parse w.text
  obtain ⟨text', himport, houtline, hrelationships⟩ := importContent_exportSql hs hnames d
  rw [himport]
  exact ⟨rfl, staysInPlace_setText hreached.inStep hreached.invariant.ids houtline hrelationships⟩

/-- A text that declares a table twice, with names that are words of SQL. -/
def keywordText : String :=
  "Table table \x7b\n  id integer [pk]\n  key uuid [default: \x60unique()\x60]\n\x7d\n" ++
    "Table b \x7b\n  y point [default: 'x', note: 'a; b']\n\x7d\n" ++
    "Table table \x7b\n  z text [default: -1.5]\n\x7d\nRef: b.y <> table.id\n"

/-- A workspace with that text in which a node was moved. -/
def movedNode : Workspace :=
  (withText {} keywordText).run [.moveNode "b" ⟨700, -20⟩]

/-- The schema of that text. -/
def movedSchema : Schema :=
  { tables :=
      [⟨"table", [
        { name := "id", type := "integer", isPrimaryKey := true },
        { name := "key", type := "uuid", defaultValue := some "\x60unique()\x60" }]⟩,
      ⟨"b", [
        { name := "y", type := "point", isForeignKey := true, defaultValue := some "'x'",
          note := some "a; b" }]⟩,
      ⟨"table", [{ name := "z", type := "text", defaultValue := some "-1.5" }]⟩]
    relationships := [⟨⟨⟨"b", "y"⟩, ⟨"table", "id"⟩⟩, .manyToMany⟩] }

/-- That schema is exportable. -/
theorem exportable_movedSchema : movedSchema.Exportable := by
  have hcall : Sql.WritableDefault "\x60unique()\x60".toList :=
    Sql.WritableDefault.call (f := "unique".toList) (by decide) (List.all_eq_true.1 rfl)
  have hquoted : Sql.WritableDefault "'x'".toList :=
    Sql.WritableDefault.quoted (w := ['x']) (List.all_eq_true.1 rfl)
  have hnumber : Sql.WritableDefault "-1.5".toList :=
    .number (.inr rfl) (List.cons_ne_nil '1' []) (List.all_eq_true.1 rfl)
      (.inr ⟨['5'], rfl, List.all_eq_true.1 rfl⟩)
  constructor
  case tables_ne_nil => exact List.cons_ne_nil _ _
  case columns_ne_nil => simp [movedSchema]
  case type_ne_nil => simp [movedSchema]
  case type => simp [movedSchema, Character.isAsciiIdent]
  case default =>
    simp only [movedSchema, List.mem_cons, List.not_mem_nil, or_false, forall_eq_or_imp, forall_eq,
      Option.mem_def, Option.some.injEq, forall_eq', reduceCtorEq, false_implies, implies_true,
      true_and]
    exact ⟨hcall, hquoted, hnumber⟩

/-- The diagram of that workspace stays in place. -/
theorem sqlRoundTrip_movedNode :
    movedNode.schema.Exportable ∧
      (movedNode.importContent .sql (movedNode.exportSql .sqlServer)).1 = .ok () ∧
      StaysInPlace movedNode (movedNode.importContent .sql (movedNode.exportSql .sqlServer)).2 ∧
      movedNode.canvas.ids = ["table", "b"] := by
  have hschema : movedNode.schema = movedSchema := by decide +kernel
  have hexportable : movedNode.schema.Exportable := hschema ▸ exportable_movedSchema
  obtain ⟨himport, hstays⟩ :=
    sqlRoundTrip_run {} keywordText [.moveNode "b" ⟨700, -20⟩] hexportable .sqlServer
  exact ⟨hexportable, himport, hstays, by decide +kernel⟩

end Workspace

end SchemaDiagram
