import SchemaDiagram.Proofs.Json.Record
import SchemaDiagram.Schema.Json

/-!
# Reading a schema from its JSON form

The JSON form of a schema is sound and is read as the schema (`Schema.reads_toJson`), whatever its
names, types, defaults and notes are. A flag that is not set and a default or note that is not there
have no member, and what is missing falls back to that; an empty text has a member and is read from
it.
-/

namespace SchemaDiagram

open Json (Record Reader Reads Sound)
open Json.Record (Fills)

/-! ## Members of a column -/

namespace Json.Record.Fills

variable {α δ : Type} {keys : List String} {key : String} {members : List (String × Json)}

/-- A member for a flag gives one more field, which is not set without the member. -/
theorem flagMember {fields : Record δ (Bool → α)} {f : Bool → α}
    (h : Fills fields keys members f) (hkey : key ∉ keys) (flag : Bool) :
    Fills (fields.field key Reader.boolean (some false)) (key :: keys)
      (members ++ Column.flagMember key flag) (f flag) := by
  cases flag with
  | true => exact h.given hkey (reads_boolean true)
  | false =>
    rw [Column.flagMember, if_neg Bool.false_ne_true, List.append_nil]
    exact h.missing hkey

/-- A member for a text gives one more field, which is not set without the member. -/
theorem optionalText {fields : Record δ (Option String → α)} {f : Option String → α}
    (h : Fills fields keys members f) (hkey : key ∉ keys) (found : Option String) :
    Fills (fields.field key Reader.text.option (some none)) (key :: keys)
      (members ++ Json.optionalMember key .string found) (f found) := by
  have hfound : Fills (fields.field key Reader.text.option (some none)) (key :: keys)
      (members ++ Json.optionalMember key .string found) (f (found.map id)) :=
    h.optionalMember hkey (fun s _ => .string s) (fun _ _ => Json.noConfusion)
      fun s _ => reads_text s
  rwa [Option.map_id] at hfound

end Json.Record.Fills

/-! ## Columns -/

namespace Column

/-- The JSON form of a column is sound. -/
theorem sound_toJson (c : Column) : Sound c.toJson := by
  have hflag (key : String) (flag : Bool) : ∀ member ∈ flagMember key flag, Sound member.2 := by
    unfold flagMember
    split
    · exact List.forall_mem_singleton.2 (.bool true)
    · exact List.forall_mem_nil _
  have htext (key : String) (value : Option String) :
      ∀ member ∈ Json.optionalMember key .string value, Sound member.2 :=
    List.forall_mem_map.2 fun s _ => .string s
  have hgiven : ∀ member ∈ [("name", Json.string c.name), ("type", .string c.type),
      ("isPrimaryKey", .bool c.isPrimaryKey), ("isForeignKey", .bool c.isForeignKey),
      ("isNotNull", .bool c.isNotNull)], Sound member.2 := by
    simp only [List.forall_mem_cons]
    exact ⟨.string _, .string _, .bool _, .bool _, .bool _, List.forall_mem_nil _⟩
  refine .object ?_
  simp only [List.forall_mem_append]
  exact ⟨⟨⟨⟨hgiven, hflag _ _⟩, hflag _ _⟩, htext _ _⟩, htext _ _⟩

/-- A column is read from its JSON form. -/
theorem reads_toJson (c : Column) : Reads reader c.toJson c :=
  Fills.of Column.mk
    |>.given (by decide) (Json.reads_text c.name)
    |>.given (by decide) (Json.reads_text c.type)
    |>.given (by decide) (Json.reads_boolean c.isPrimaryKey)
    |>.given (by decide) (Json.reads_boolean c.isForeignKey)
    |>.given (by decide) (Json.reads_boolean c.isNotNull)
    |>.flagMember (by decide) c.isUnique
    |>.flagMember (by decide) c.isIncrement
    |>.optionalText (by decide) c.defaultValue
    |>.optionalText (by decide) c.note
    |>.reads

end Column

/-! ## Tables -/

namespace Table

/-- The JSON form of a table is sound. -/
theorem sound_toJson (t : Table) : Sound t.toJson := by
  have hcolumns : Sound (.array (t.columns.map Column.toJson)) :=
    .array (List.forall_mem_map.2 fun c _ => c.sound_toJson)
  refine .object fun member hmember => ?_
  rcases List.mem_pair.1 hmember with rfl | rfl
  · exact .string t.name
  · exact hcolumns

/-- A table is read from its JSON form. -/
theorem reads_toJson (t : Table) : Reads reader t.toJson t :=
  have hcolumns : Reads (Reader.list Column.reader) (.array (t.columns.map Column.toJson))
      t.columns :=
    Json.reads_list (fun c _ => c.reads_toJson) fun c _ => c.sound_toJson
  Fills.of Table.mk
    |>.given (by decide) (Json.reads_text t.name)
    |>.given (by decide) hcolumns
    |>.reads

end Table

/-! ## Relationships -/

namespace ColumnRef

/-- The JSON form of a column reference is sound. -/
theorem sound_toJson (r : ColumnRef) : Sound r.toJson := by
  refine .object fun member hmember => ?_
  rcases List.mem_pair.1 hmember with rfl | rfl
  · exact .string r.table
  · exact .string r.column

/-- A column reference is read from its JSON form. -/
theorem reads_toJson (r : ColumnRef) : Reads reader r.toJson r :=
  Fills.of ColumnRef.mk
    |>.given (by decide) (Json.reads_text r.table)
    |>.given (by decide) (Json.reads_text r.column)
    |>.reads

end ColumnRef

/-- A cardinality is known by its name. -/
theorem Cardinality.ofName?_name (c : Cardinality) : ofName? c.name = some c := by
  cases c <;> rfl

namespace Relationship

/-- The JSON form of a relationship is sound. -/
theorem sound_toJson (r : Relationship) : Sound r.toJson := by
  refine .object ?_
  simp only [List.forall_mem_cons]
  exact ⟨r.endpoints.source.sound_toJson, r.endpoints.target.sound_toJson, .string _,
    List.forall_mem_nil _⟩

/-- A relationship is read from its JSON form. -/
theorem reads_toJson (r : Relationship) : Reads reader r.toJson r :=
  Fills.of (fun source target cardinality => (⟨⟨source, target⟩, cardinality⟩ : Relationship))
    |>.given (by decide) r.endpoints.source.reads_toJson
    |>.given (by decide) r.endpoints.target.reads_toJson
    |>.given (by decide) (Json.reads_choice r.cardinality.ofName?_name)
    |>.reads

end Relationship

/-! ## Schemas -/

namespace Schema

/-- The JSON form of a schema is sound. -/
theorem sound_toJson (s : Schema) : Sound s.toJson := by
  have htables : Sound (.array (s.tables.map Table.toJson)) :=
    .array (List.forall_mem_map.2 fun t _ => t.sound_toJson)
  have hrelationships : Sound (.array (s.relationships.map Relationship.toJson)) :=
    .array (List.forall_mem_map.2 fun r _ => r.sound_toJson)
  refine .object fun member hmember => ?_
  rcases List.mem_pair.1 hmember with rfl | rfl
  · exact htables
  · exact hrelationships

/-- A schema is read from its JSON form. -/
theorem reads_toJson (s : Schema) : Reads reader s.toJson s :=
  have htables : Reads (Reader.list Table.reader) (.array (s.tables.map Table.toJson)) s.tables :=
    Json.reads_list (fun t _ => t.reads_toJson) fun t _ => t.sound_toJson
  have hrelationships : Reads (Reader.list Relationship.reader)
      (.array (s.relationships.map Relationship.toJson)) s.relationships :=
    Json.reads_list (fun r _ => r.reads_toJson) fun r _ => r.sound_toJson
  Fills.of Schema.mk
    |>.given (by decide) htables
    |>.given (by decide) hrelationships
    |>.reads

end Schema

end SchemaDiagram
