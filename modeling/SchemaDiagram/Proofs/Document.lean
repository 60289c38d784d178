import SchemaDiagram.Document
import SchemaDiagram.Import
import SchemaDiagram.Proofs.Diagram.Layout
import SchemaDiagram.Proofs.Schema.Json
import SchemaDiagram.Proofs.Text.Blank

/-!
# Reading a document that was exported

The text of a document is taken for a document (`FileFormat.detect_print`). Its schema text and its
positions are imported from it as they are (`Imported.ofJson_print`), provided that the positions
are listed by name and their coordinates come back when they are written and read; the other members
of the document are skipped. Its schema is read from it whatever the positions are
(`Schema.read_written`), and so is the whole document if some numbers are read from its coordinates.
-/

namespace SchemaDiagram

open Json (Record Reader Reads Sound)
open Json.Record (Fills)

/-! ## Positions -/

namespace Position

variable {p : Position}

/-- The JSON form of a position is sound. -/
theorem sound_toJson (p : Position) : Sound p.toJson := by
  refine .object fun member hmember => ?_
  rcases List.mem_pair.1 hmember with rfl | rfl
  · exact Json.sound_ofFloat p.x
  · exact Json.sound_ofFloat p.y

/-- A position is read from the JSON form of another one if its coordinates are. -/
theorem reads_toJson {x y : Float} (hx : Reads Reader.float (.ofFloat p.x) x)
    (hy : Reads Reader.float (.ofFloat p.y) y) : Reads reader p.toJson ⟨x, y⟩ :=
  Fills.of Position.mk
    |>.given (by decide) hx
    |>.given (by decide) hy
    |>.reads

/-- Both coordinates come back when they are written and read. -/
structure ReadsBack (p : Position) : Prop where
  /-- The distance from the left does. -/
  x : Json.ReadsBack p.x
  /-- The distance from the top does. -/
  y : Json.ReadsBack p.y

/-- It can be tried whether a position comes back. -/
instance (p : Position) : Decidable p.ReadsBack :=
  decidable_of_iff (Json.ReadsBack p.x ∧ Json.ReadsBack p.y)
    ⟨fun h => ⟨h.1, h.2⟩, fun h => ⟨h.x, h.y⟩⟩

/-- Such a position is read from its JSON form. -/
theorem ReadsBack.reads (h : p.ReadsBack) : Reads reader p.toJson p :=
  reads_toJson h.x.reads h.y.reads

/-- Both coordinates are legible. -/
structure Legible (p : Position) : Prop where
  /-- The distance from the left is. -/
  x : Json.Legible p.x
  /-- The distance from the top is. -/
  y : Json.Legible p.y

/-- It can be tried whether a position is legible. -/
instance (p : Position) : Decidable p.Legible :=
  decidable_of_iff (Json.Legible p.x ∧ Json.Legible p.y)
    ⟨fun h => ⟨h.1, h.2⟩, fun h => ⟨h.x, h.y⟩⟩

/-- Some position is read from the JSON form of such a position. -/
theorem Legible.exists_reads (h : p.Legible) : ∃ q, Reads reader p.toJson q := by
  obtain ⟨x, hx⟩ := h.x.exists_reads
  obtain ⟨y, hy⟩ := h.y.exists_reads
  exact ⟨⟨x, y⟩, reads_toJson hx hy⟩

end Position

namespace Layout

variable {l : Layout}

/-- The JSON form of a layout is sound. -/
theorem sound_toJson (l : Layout) : Sound l.toJson :=
  .object (List.forall_mem_map.2 fun entry _ => entry.2.sound_toJson)

/-- All positions come back when they are written and read. -/
def ReadsBack (l : Layout) : Prop :=
  ∀ entry ∈ l.entries, entry.2.ReadsBack

/-- Such a layout is read from its JSON form if it is sorted. -/
theorem ReadsBack.reads (h : l.ReadsBack) (hsorted : l.Sorted) : Reads reader l.toJson l := by
  have hmap : Reads reader l.toJson
      (l.entries.foldl (fun l entry => l.insert entry.1 entry.2) empty) :=
    Json.reads_map (fun entry hentry => (h entry hentry).reads) empty
  rwa [foldl_insert_entries hsorted] at hmap

/-- All positions are legible. -/
def Legible (l : Layout) : Prop :=
  ∀ entry ∈ l.entries, entry.2.Legible

/-- Some layout is read from the JSON form of such a layout. -/
theorem Legible.exists_reads (h : l.Legible) : ∃ l', Reads reader l.toJson l' := by
  have hentry (entry : String × Position) : ∃ q, entry ∈ l.entries →
      Reads Position.reader entry.2.toJson q := by
    by_cases hmem : entry ∈ l.entries
    · obtain ⟨q, hq⟩ := (h entry hmem).exists_reads
      exact ⟨q, fun _ => hq⟩
    · exact ⟨entry.2, fun hmem' => absurd hmem' hmem⟩
  choose value hvalue using hentry
  exact ⟨_, Json.reads_map hvalue empty⟩

end Layout

/-! ## Documents -/

namespace Document

variable {d : Document}

/-- The JSON form of a document is sound. -/
theorem sound_toJson (d : Document) : Sound d.toJson := by
  have hlayout : ∀ member ∈ Json.optionalMember "nodePositions" Layout.toJson d.layout,
      Sound member.2 :=
    List.forall_mem_map.2 fun l _ => l.sound_toJson
  refine .object ?_
  simp only [List.forall_mem_append, List.forall_mem_cons]
  exact ⟨⟨⟨.string _, .string _, d.schema.sound_toJson, List.forall_mem_nil _⟩, hlayout⟩,
    .string _, List.forall_mem_nil _⟩

/-- The layout of a document is as it is read: sorted, with positions that come back. -/
structure Readable (d : Document) : Prop where
  /-- The names are in alphabetical order. -/
  sorted : ∀ l ∈ d.layout, l.Sorted
  /-- The positions come back. -/
  positions : ∀ l ∈ d.layout, l.ReadsBack

/-- The text and the layout are read from the JSON form of such a document. -/
theorem Readable.reads (h : d.Readable) :
    Reads Imported.documentReader d.toJson (some d.text, d.layout) := by
  have hlayout : ∀ l ∈ d.layout, Reads Layout.reader l.toJson (id l) :=
    fun l hl => (h.positions l hl).reads (h.sorted l hl)
  have hreads : Reads Imported.documentReader d.toJson (some d.text, d.layout.map id) :=
    Fills.of (fun text layout => ((text, layout) : Option String × Option Layout))
      |>.skipped "version" (List.forall_mem_singleton.2 ⟨rfl, .string d.version⟩) rfl
      |>.given (by decide) (Json.reads_option (.string _) Json.noConfusion (Json.reads_text d.text))
      |>.skipped "parsedDBML" (List.forall_mem_singleton.2 ⟨rfl, d.schema.sound_toJson⟩) rfl
      |>.optionalMember (by decide) (fun l _ => l.sound_toJson) (fun _ _ => Json.noConfusion)
        hlayout
      |>.skipped "exportedAt" (List.forall_mem_singleton.2 ⟨rfl, .string d.exportedAt⟩) rfl
      |>.reads
  rwa [Option.map_id] at hreads

/-- A document is read from its JSON form, with the layout that is read for its own. -/
theorem reads_toJson {value : Layout → Layout}
    (h : ∀ l ∈ d.layout, Reads Layout.reader l.toJson (value l)) :
    Reads reader d.toJson { d with layout := d.layout.map value } :=
  Fills.of Document.mk
    |>.given (by decide) (Json.reads_text d.version)
    |>.given (by decide) (Json.reads_text d.text)
    |>.given (by decide) d.schema.reads_toJson
    |>.optionalMember (by decide) (fun l _ => l.sound_toJson) (fun _ _ => Json.noConfusion) h
    |>.given (by decide) (Json.reads_text d.exportedAt)
    |>.reads

/-- Reads the schema of a document and nothing else of it. -/
def schemaReader : Reader Schema :=
  (Record.of id |>.required "parsedDBML" Schema.reader).reader

/-- The schema of a document is read from its JSON form. -/
theorem reads_schema (d : Document) : Reads schemaReader d.toJson d.schema :=
  have hlayout : ∀ member ∈ Json.optionalMember "nodePositions" Layout.toJson d.layout,
      member.1 = "nodePositions" ∧ Sound member.2 :=
    List.forall_mem_map.2 fun l _ => ⟨rfl, l.sound_toJson⟩
  Fills.of id
    |>.skipped "version" (List.forall_mem_singleton.2 ⟨rfl, .string d.version⟩) rfl
    |>.skipped "dbmlCode" (List.forall_mem_singleton.2 ⟨rfl, .string d.text⟩) rfl
    |>.given (by decide) d.schema.reads_toJson
    |>.skipped "nodePositions" hlayout rfl
    |>.skipped "exportedAt" (List.forall_mem_singleton.2 ⟨rfl, .string d.exportedAt⟩) rfl
    |>.reads

end Document

/-- The text and the layout of a document are imported from its text. -/
theorem Imported.ofJson_print {d : Document} (h : d.Readable) (htext : d.text ≠ "") :
    ofJson d.print = .ok ⟨d.text, d.layout⟩ := by
  have hrun : documentReader.run d.print = .ok (some d.text, d.layout) :=
    Json.run_write Json.Layout.blank_pretty d.sound_toJson h.reads
  unfold ofJson
  rw [hrun]
  exact if_neg htext

/-- A schema is read again from what is written for it: from its own text without blanks, and from
the text of a document with an item a line. From a document it is read whatever else the document
holds, and with the rest of the document if the positions are legible. -/
theorem Schema.read_written (s : Schema) :
    reader.run s.toJson.compact = .ok s ∧
      ∀ (text : String) (layout : Option Layout) (exportedAt : String),
        let d := Document.ofDiagram text s layout exportedAt
        Document.schemaReader.run d.print = .ok s ∧
          ((∀ l ∈ layout, l.Legible) →
            ∃ layout', Document.reader.run d.print = .ok { d with layout := layout' }) := by
  constructor
  · exact Json.run_write Json.Layout.blank_compact s.sound_toJson s.reads_toJson
  · intro text layout exportedAt d
    constructor
    · exact Json.run_write Json.Layout.blank_pretty d.sound_toJson d.reads_schema
    · intro hlegible
      have hvalue : ∃ value : Layout → Layout,
          ∀ l ∈ layout, Reads Layout.reader l.toJson (value l) := by
        cases layout with
        | none => exact ⟨id, fun _ hl => nomatch hl⟩
        | some l =>
          obtain ⟨l', hl'⟩ := (hlegible l rfl).exists_reads
          exact ⟨fun _ => l', fun _ hl => Option.some.inj hl ▸ hl'⟩
      obtain ⟨value, hvalue⟩ := hvalue
      exact ⟨_, Json.run_write Json.Layout.blank_pretty d.sound_toJson (d.reads_toJson hvalue)⟩

/-- A schema with an empty text, quotes, a backslash, control characters and letters that are not in
ASCII. -/
def Schema.quoted : Schema where
  tables := [⟨"a \"b\" \\ \x01 \n é",
    [⟨"", "日本", false, true, false, true, false, some "", none⟩]⟩, ⟨"", []⟩]
  relationships := [⟨⟨⟨"a", ""⟩, ⟨"\x7f", "\u2028"⟩⟩, .manyToMany⟩]

/-- That schema is read again from a document with positions. -/
theorem Schema.read_written_quoted :
    let d := Document.ofDiagram "" quoted (some ⟨[("a", ⟨-20.5, 1e21⟩)]⟩) "now"
    (∀ l ∈ d.layout, l.Legible) ∧ reader.run quoted.toJson.compact = .ok quoted ∧
      Document.schemaReader.run d.print = .ok quoted ∧
      ∃ layout', Document.reader.run d.print = .ok { d with layout := layout' } := by
  intro d
  have hlegible : ∀ l ∈ d.layout, l.Legible := by
    intro l hl
    obtain rfl := Option.some.inj hl
    exact List.forall_mem_singleton.2 (by decide +kernel)
  obtain ⟨hcompact, hdocument⟩ := read_written quoted
  obtain ⟨hschema, hall⟩ := hdocument "" (some ⟨[("a", ⟨-20.5, 1e21⟩)]⟩) "now"
  exact ⟨hlegible, hcompact, hschema, hall hlegible⟩

/-- The text of a document is taken for a document. -/
theorem FileFormat.detect_print (d : Document) : detect d.print = .json := by
  have hprint : d.print.toList = Json.write .pretty 0 d.toJson := String.toList_ofList
  have hquote : Json.quote "dbmlCode".toList = "\"dbmlCode\"".toList := by decide
  have htext : ("dbmlCode", Json.string d.text) ∈
      [("version", Json.string d.version), ("dbmlCode", .string d.text),
        ("parsedDBML", d.schema.toJson)] := .tail _ (.head _)
  have hkey : Text.occursIn "\"dbmlCode\"".toList d.print.toList = true := by
    rw [Text.occursIn_iff, hprint, ← hquote]
    exact Json.quote_infix_write (List.mem_append_left _ (List.mem_append_left _ htext)) 0
  have hbrace : (Text.trimStart d.print.toList).head? = some '{' := by
    rw [hprint]
    rfl
  unfold detect
  dsimp only
  rw [hkey, hbrace]
  rfl

end SchemaDiagram
