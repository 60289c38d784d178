import SchemaDiagram.Proofs.Bytes.Utf8
import SchemaDiagram.Proofs.Diagram.Lifecycle
import SchemaDiagram.Proofs.Sql.ForeignKey
import SchemaDiagram.Proofs.Sql.Names
import SchemaDiagram.Proofs.Workspace.Propagation

/-!
# Identifiers tell edges apart

The identifier of a derived edge comes from the hash of four names. Each name ends at its first zero
byte, so that the bytes give back the names and with them the columns (`Endpoints.bytes_inj`). From
there on only the hash can lose something: derived edges between different columns have the same
identifier exactly if their bytes `Collide` (`Edge.derivedId_eq_iff`).

This is for names without the zero character, and no other ones are read from a schema text or from
a script (`Edge.identifiers_separate`). Edges drawn by hand have identifiers of another kind, which
differ like their serial numbers. So two edges on the canvas of a workspace share an identifier only
through a collision (`Workspace.pairwise_collide_run`).
-/

namespace SchemaDiagram

/-! ## Parts that end in a stop -/

/-- Where the first stop is, the first part ends. -/
theorem append_cons_inj {α : Type} [DecidableEq α] {stop : α} {x y s t : List α} (hx : stop ∉ x)
    (hy : stop ∉ y) (h : x ++ stop :: s = y ++ stop :: t) : x = y ∧ s = t := by
  have hplace {z : List α} (hz : stop ∉ z) (r : List α) :
      (z ++ stop :: r).idxOf stop = z.length := by
    rw [List.idxOf_append_of_notMem hz, List.idxOf_cons_self, Nat.add_zero]
  have hlength : x.length = y.length := by rw [← hplace hx s, h, hplace hy t]
  obtain ⟨hfirst, hbehind⟩ := List.append_inj h hlength
  exact ⟨hfirst, (List.cons.inj hbehind).2⟩

/-- Parts without the stop that ends each of them can be told from what they make up, even if they
are empty. -/
theorem eq_of_flatMap_stop {α : Type} [DecidableEq α] {stop : α} {xs ys : List (List α)}
    (hxs : ∀ x ∈ xs, stop ∉ x) (hys : ∀ y ∈ ys, stop ∉ y)
    (h : xs.flatMap (· ++ [stop]) = ys.flatMap (· ++ [stop])) : xs = ys := by
  -- By induction on the parts of both: the first ones are the same, and so is what is behind them.
  induction xs generalizing ys with
  | nil =>
    cases ys with
    | nil => rfl
    | cons y ys => simp at h
  | cons x xs ih =>
    cases ys with
    | nil => simp at h
    | cons y ys =>
      obtain ⟨hx, hxs⟩ := List.forall_mem_cons.1 hxs
      obtain ⟨hy, hys⟩ := List.forall_mem_cons.1 hys
      rw [List.flatMap_cons, List.flatMap_cons, List.append_assoc, List.append_assoc] at h
      obtain ⟨hfirst, hbehind⟩ := append_cons_inj hx hy h
      rw [hfirst, ih hxs hys hbehind]

/-! ## The names of endpoints and their bytes -/

/-- The names do not contain the zero character. -/
def ZeroFree (names : List String) : Prop :=
  ∀ name ∈ names, '\x00' ∉ name.toList

/-- Whether a name contains the zero character can be looked up. -/
instance (names : List String) : Decidable (ZeroFree names) :=
  inferInstanceAs (Decidable (∀ name ∈ names, '\x00' ∉ name.toList))

namespace Endpoints

/-- The names of the endpoints. -/
def names (e : Endpoints) : List String :=
  [e.source.table, e.source.column, e.target.table, e.target.column]

variable {e f : Endpoints}

/-- Endpoints are known by their names. -/
theorem names_injective : Function.Injective names := by
  rintro ⟨⟨a, b⟩, ⟨c, d⟩⟩ ⟨⟨a', b'⟩, ⟨c', d'⟩⟩ h
  simp only [names, List.cons.injEq, and_true] at h
  obtain ⟨rfl, rfl, rfl, rfl⟩ := h
  rfl

/-- The bytes of endpoints are those of their names, with a zero byte behind each name. -/
theorem bytes_eq (e : Endpoints) :
    e.bytes = (e.names.map fun name => Utf8.encode name.toList).flatMap (· ++ [0]) := by
  rw [List.flatMap_map]
  rfl

/-- Endpoints whose names do not contain the zero character are known by their bytes. -/
theorem bytes_inj (he : ZeroFree e.names) (hf : ZeroFree f.names) :
    e.bytes = f.bytes ↔ e = f := by
  have hzero {names : List String} (h : ZeroFree names) :
      ∀ part ∈ names.map fun name => Utf8.encode name.toList, 0 ∉ part := by
    intro part hpart
    obtain ⟨name, hname, rfl⟩ := List.mem_map.1 hpart
    exact Utf8.zero_not_mem_encode (h name hname)
  have hencode : Function.Injective fun name : String => Utf8.encode name.toList :=
    fun _ _ h => String.toList_injective (Utf8.encode_injective h)
  constructor
  · intro h
    rw [bytes_eq, bytes_eq] at h
    have hparts := eq_of_flatMap_stop (hzero he) (hzero hf) h
    exact names_injective (List.map_injective_iff.2 hencode hparts)
  · exact congrArg bytes

/-- The zero character would end a name early. -/
example : (⟨⟨"a\x00b", "c"⟩, ⟨"x", "y"⟩⟩ : Endpoints).bytes =
    (⟨⟨"a", "b\x00c"⟩, ⟨"x", "y"⟩⟩ : Endpoints).bytes := by
  decide

end Endpoints

/-! ## Identifiers -/

/-- Bytes are known by their digits. -/
theorem Hex.encode_injective : Function.Injective Hex.encode := by
  have hdigit : ∀ m < 16, ∀ n < 16, Nat.digitChar m = Nat.digitChar n → m = n := by decide
  -- By induction on the bytes: the first two digits are those of the first byte.
  intro a
  induction a with
  | nil =>
    rintro (_ | ⟨y, b⟩) h
    · rfl
    · cases h
  | cons x a ih =>
    rintro (_ | ⟨y, b⟩) h
    · cases h
    · obtain ⟨hhigh, hrest⟩ := List.cons.inj h
      obtain ⟨hlow, hrest⟩ := List.cons.inj hrest
      have hx := x.toNat_lt
      have hy := y.toNat_lt
      have hdiv := hdigit _ (by omega) _ (by omega) hhigh
      have hmod := hdigit _ (by omega) _ (by omega) hlow
      have hbyte : x = y := UInt8.toNat_inj.1 (by omega)
      rw [hbyte, ih hrest]

/-- The messages are different, but their hashes begin with the same eight bytes. -/
structure Collide (m n : List UInt8) : Prop where
  /-- The messages are different. -/
  ne : m ≠ n
  /-- Their hashes begin with the same eight bytes. -/
  hash : (Sha256.hash m).take 8 = (Sha256.hash n).take 8

namespace Edge

variable {e f : Endpoints}

/-- Derived edges between columns whose names do not contain the zero character have the same
identifier exactly if the columns are the same or their bytes collide. -/
theorem derivedId_eq_iff (he : ZeroFree e.names) (hf : ZeroFree f.names) :
    derivedId e = derivedId f ↔ e = f ∨ Collide e.bytes f.bytes := by
  constructor
  · intro h
    have hdigits : shortHash e.bytes = shortHash f.bytes := by
      have htext := congrArg String.toList h
      unfold derivedId at htext
      rwa [String.toList_append, String.toList_append, List.append_cancel_left_eq,
        String.toList_ofList, String.toList_ofList] at htext
    by_cases heq : e = f
    · exact .inl heq
    · have hbytes : e.bytes ≠ f.bytes := (Endpoints.bytes_inj he hf).not.2 heq
      exact .inr ⟨hbytes, Hex.encode_injective hdigits⟩
  · rintro (rfl | hcollide)
    · rfl
    · unfold derivedId shortHash
      rw [hcollide.hash]

end Edge

/-! ## Names that are read -/

/-- The names in a schema: those of its tables and columns, and those in its relationships. -/
def Schema.names (s : Schema) : List String :=
  (s.tables.flatMap fun t => t.name :: t.columns.map Column.name) ++
    s.relationships.flatMap fun r => r.endpoints.names

/-- The names in a relationship do not contain the zero character if they are identifiers. -/
theorem TextSafeRelationship.zeroFree {r : Relationship} (h : TextSafeRelationship r) :
    ZeroFree r.endpoints.names := by
  unfold ZeroFree Endpoints.names
  simp only [List.forall_mem_cons]
  exact ⟨h.sourceTable.not_mem rfl, h.sourceColumn.not_mem rfl, h.targetTable.not_mem rfl,
    h.targetColumn.not_mem rfl, List.forall_mem_nil _⟩

/-- The names in a schema do not contain the zero character if they are identifiers. -/
theorem Schema.IdentifierNames.zeroFree {s : Schema} (h : s.IdentifierNames) :
    ZeroFree s.names := by
  intro name hmem
  rcases List.mem_append.1 hmem with htables | hrelationships
  · obtain ⟨t, ht, hmem⟩ := List.mem_flatMap.1 htables
    obtain ⟨htable, hcolumns⟩ := h.tables t ht
    rcases List.mem_cons.1 hmem with rfl | hcolumn
    · exact htable.not_mem rfl
    · obtain ⟨c, hc, rfl⟩ := List.mem_map.1 hcolumn
      exact (hcolumns c hc).not_mem rfl
  · obtain ⟨r, hr, hmem⟩ := List.mem_flatMap.1 hrelationships
    exact (h.relationships r hr).zeroFree name hmem

/-- The names in the schema of a script are identifiers. -/
theorem Sql.identifierNames_parse {script : String} {s : Schema} (h : Sql.parse script = .ok s) :
    s.IdentifierNames := by
  have hsafe := lineSafe_schemaOf (stripComments script.toList)
  rw [schemaOf_eq, ← (eq_of_parse h).1] at hsafe
  constructor
  · exact fun t ht => ⟨hsafe.tables t ht, fun c hc => (hsafe.columns t ht c hc).name⟩
  · exact hsafe.relationships

namespace Edge

/-- Endpoints are known by their bytes, so that derived edges between different columns share an
identifier only through a collision. It takes names without the zero character, and only such names
are read. Edges drawn by hand share their identifiers with no derived edge, and not with each other
unless they have the same serial number. -/
theorem identifiers_separate (e f : Endpoints) (he : ZeroFree e.names) (hf : ZeroFree f.names) :
    (e.bytes = f.bytes ↔ e = f) ∧
      (derivedId e = derivedId f ↔ e = f ∨ Collide e.bytes f.bytes) ∧
      (∀ text, ZeroFree (Schema.parse text).names) ∧
      (∀ script schema, Sql.parse script = .ok schema → ZeroFree schema.names) ∧
      (∀ columns serial, derivedId columns ≠ manualId serial) ∧
      ∀ m n, m ≠ n → manualId m ≠ manualId n := by
  refine ⟨Endpoints.bytes_inj he hf, derivedId_eq_iff he hf, fun text => ?_,
    fun script schema hread => ?_, derivedId_ne_manualId, fun m n hne => ?_⟩
  · exact (Schema.identifierNames_parse text).zeroFree
  · exact (Sql.identifierNames_parse hread).zeroFree
  · exact manualId_injective.ne hne

/-- Endpoints with a table whose name ends in a character of two bytes, and a column without a
name. -/
def unnamedColumn : Endpoints :=
  ⟨⟨"aé", ""⟩, ⟨"b", "c"⟩⟩

/-- These endpoints, but with that character in the name of the column. -/
def movedCharacter : Endpoints :=
  ⟨⟨"a", "é"⟩, ⟨"b", "c"⟩⟩

/-- A script with a zero character, which is only read as part of a default value. -/
def zeroScript : String :=
  "CREATE TABLE a (x text DEFAULT '\x00');"

/-- The names of those endpoints make up the same bytes, but with the zero bytes they do not, and
the identifiers are different. -/
theorem identifiers_movedCharacter :
    ZeroFree unnamedColumn.names ∧ ZeroFree movedCharacter.names ∧
      (unnamedColumn.names.flatMap fun name => Utf8.encode name.toList) =
        (movedCharacter.names.flatMap fun name => Utf8.encode name.toList) ∧
      unnamedColumn.bytes ≠ movedCharacter.bytes ∧
      derivedId unnamedColumn ≠ derivedId movedCharacter ∧
      ∃ schema, Sql.parse zeroScript = .ok schema ∧ ZeroFree schema.names ∧
        schema.names = ["a", "x"] ∧ manualId 1 ≠ manualId 10 := by
  have hunnamed : ZeroFree unnamedColumn.names := by decide
  have hmoved : ZeroFree movedCharacter.names := by decide
  obtain ⟨hbytes, hid, -, hread, -, hserial⟩ :=
    identifiers_separate unnamedColumn movedCharacter hunnamed hmoved
  have hne : unnamedColumn ≠ movedCharacter := by decide
  have hhash : ¬Collide unnamedColumn.bytes movedCharacter.bytes := by
    intro hcollide
    exact absurd hcollide.hash (by decide +kernel)
  have hscript : Sql.parse zeroScript = .ok ⟨[⟨"a",
      [{ name := "x", type := "text", defaultValue := some "'\x00'" }]⟩], []⟩ := by
    decide +kernel
  refine ⟨hunnamed, hmoved, by decide +kernel, hbytes.not.2 hne,
    hid.not.2 (not_or.2 ⟨hne, hhash⟩), _, hscript, hread _ _ hscript, rfl,
    hserial 1 10 (by decide)⟩

end Edge

/-! ## Edges on a canvas -/

namespace Canvas

variable {c : Canvas}

/-- Two edges of a canvas share an identifier only if they are derived and their bytes collide:
among the derived edges no two connect the same columns, and among the others no two have the same
serial number. -/
theorem Consistent.pairwise_collide (h : Consistent c)
    (hnames : ∀ e ∈ c.derivedEdges, ZeroFree e.endpoints.names) :
    c.edges.Pairwise fun a b => a.id = b.id →
      a.isManual = false ∧ b.isManual = false ∧ Collide a.endpoints.bytes b.endpoints.bytes := by
  have hderived := List.pairwise_filter.1 (List.pairwise_map.1 h.derived)
  have hserials := List.pairwise_filterMap.1 h.serials
  have hzero {endpoints handles cardinality}
      (he : (⟨endpoints, handles, .derived cardinality⟩ : Edge) ∈ c.edges) :
      ZeroFree endpoints.names :=
    hnames _ (List.mem_filter.2 ⟨he, rfl⟩)
  -- An identifier says of which kind its edge is, so only edges of one kind can share it.
  refine (hderived.and hserials).imp_of_mem fun {a b} ha hb ⟨hcolumns, hserial⟩ hid => ?_
  obtain ⟨aEndpoints, aHandles, aProvenance⟩ := a
  obtain ⟨bEndpoints, bHandles, bProvenance⟩ := b
  cases aProvenance with
  | derived =>
    cases bProvenance with
    | derived =>
      have hsame := (Edge.derivedId_eq_iff (hzero ha) (hzero hb)).1 hid
      exact ⟨rfl, rfl, hsame.resolve_left (hcolumns rfl rfl)⟩
    | manual n => exact absurd hid (Edge.derivedId_ne_manualId aEndpoints n)
  | manual m =>
    cases bProvenance with
    | derived => exact absurd hid.symm (Edge.derivedId_ne_manualId bEndpoints m)
    | manual n => exact absurd (Edge.manualId_injective hid) (hserial m rfl n rfl)

/-- A derived edge of a canvas shows a relationship of the schema. -/
theorem Shows.exists_of_mem_derivedEdges {schema : Schema} (h : c.Shows schema) {e : Edge}
    (he : e ∈ c.derivedEdges) : ∃ r ∈ schema.relationships, r.endpoints = e.endpoints := by
  obtain ⟨hmem, hderived⟩ := List.mem_filter.1 he
  have hcolumns : c.Derives e.endpoints := ⟨e, hmem, by simpa using hderived, rfl⟩
  obtain ⟨r, hr, heq⟩ := List.mem_map.1 (derives_iff.1 hcolumns)
  exact ⟨r, (h.relationships.trans (sublist_firsts _)).subset hr, heq⟩

end Canvas

/-- On the canvas of every workspace that operations lead to, two edges share an identifier only if
they are derived and their bytes collide. -/
theorem Workspace.pairwise_collide_run (settings : Settings) (text : String)
    (operations : List Operation) :
    ((withText settings text).run operations).canvas.edges.Pairwise fun a b => a.id = b.id →
      a.isManual = false ∧ b.isManual = false ∧ Collide a.endpoints.bytes b.endpoints.bytes := by
  have hreached := reached_run settings text operations
  refine hreached.invariant.toConsistent.pairwise_collide fun e he => ?_
  obtain ⟨r, hr, heq⟩ := hreached.inStep.shows.exists_of_mem_derivedEdges he
  rw [hreached.inStep.schema] at hr
  rw [← heq]
  exact ((Schema.identifierNames_parse _).relationships r hr).zeroFree

end SchemaDiagram
