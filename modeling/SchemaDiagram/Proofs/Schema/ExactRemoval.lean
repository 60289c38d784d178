import SchemaDiagram.Proofs.Schema.RemoveTable

/-!
# Removing a table from the canonical text of a schema

In the text that is printed for a schema the removal of a table does just what it should: what is
left declares the schema without the tables of that name and without the relationships in which the
name occurs (`Schema.parse_removeTable_print`). The blocks of the table are cut as a whole, and each
other block stays (`cutBlocks_print`). No line of a block is taken for a reference, and of the
reference lines go those in which the name is one of the four names, since names of ASCII letters,
digits and underscores are just the words of such a line (`isReferenceTo_line`).
-/

namespace SchemaDiagram

open Character SchemaText

/-- The four names in a relationship. -/
def Relationship.names (r : Relationship) : List String :=
  [r.endpoints.source.table, r.endpoints.source.column, r.endpoints.target.table,
    r.endpoints.target.column]

/-- The schema without the tables of the given name and without the relationships in which that name
occurs. -/
def Schema.without (s : Schema) (n : String) : Schema :=
  ⟨s.tables.filter (·.name ≠ n), s.relationships.filter (n ∉ ·.names)⟩

/-- A name of ASCII letters, digits and underscores. -/
def IsPlainName (n : String) : Prop :=
  n.toList ≠ [] ∧ ∀ c ∈ n.toList, isAsciiIdent c = true

/-- A text that is not empty and consists of such characters is a plain name. -/
theorem isPlainName_of_all {n : String}
    (h : (!n.toList.isEmpty && n.toList.all isAsciiIdent) = true) : IsPlainName n := by
  rw [Bool.and_eq_true, List.all_eq_true] at h
  exact ⟨by simpa using h.1, h.2⟩

/-! ## Words of a line -/

namespace SchemaText

variable {name w s : List Char} {b : Option Char}

/-- Where no word begins, no name stands as a word. -/
theorem isWordAt_of_not (hname : name ≠ []) (hword : ∀ c ∈ name, isWord c = true)
    (hs : s.head?.any isWord = false) : isWordAt name b s = false := by
  obtain ⟨c, name, rfl⟩ := List.exists_cons_of_ne_nil hname
  have hc := hword c List.mem_cons_self
  unfold isWordAt
  cases hfront : (c :: name).isPrefixOf? s with
  | none => rfl
  | some rest =>
    rw [← List.isPrefixOf?_eq_some_iff_append_eq.1 hfront] at hs
    simp [hc] at hs

/-- A character that is not of words is passed over. -/
theorem hasWord_cons (hname : name ≠ []) (hword : ∀ c ∈ name, isWord c = true) {c : Char}
    (hc : isWord c = false) : hasWord name b (c :: s) = hasWord name (some c) s := by
  rw [hasWord, isWordAt_of_not hname hword (by simpa using hc), Bool.false_or]

/-- Within a word nothing stands as a word. -/
theorem hasWord_inside (hname : name ≠ []) (hword : ∀ c ∈ name, isWord c = true)
    (hw : ∀ c ∈ w, isWord c = true) (hb : b.any isWord = true) {c : Char} (hc : isWord c = false) :
    hasWord name b (w ++ c :: s) = hasWord name (some c) s := by
  induction w generalizing b with
  | nil => exact hasWord_cons hname hword hc
  | cons x w ih =>
    have hx := hw x List.mem_cons_self
    have hnot : isWordAt name b (x :: w ++ c :: s) = false := by
      unfold isWordAt isWordBoundary
      split
      · rfl
      · simp [hb, hx]
    rw [List.cons_append, hasWord, ← List.cons_append, hnot, Bool.false_or,
      ih (fun y hy => hw y (List.mem_cons_of_mem x hy)) (by simpa using hx)]

/-- A whole word is the name, or else it is passed over. -/
theorem hasWord_append (hname : name ≠ []) (hword : ∀ c ∈ name, isWord c = true) (hne : w ≠ [])
    (hw : ∀ c ∈ w, isWord c = true) (hb : b.any isWord = false) {c : Char} (hc : isWord c = false) :
    hasWord name b (w ++ c :: s) = (decide (name = w) || hasWord name (some c) s) := by
  obtain ⟨x, w, rfl⟩ := List.exists_cons_of_ne_nil hne
  have hx := hw x List.mem_cons_self
  have hat : isWordAt name b (x :: w ++ c :: s) = decide (name = x :: w) := by
    unfold isWordAt
    rw [Bool.eq_iff_iff, decide_eq_true_iff]
    constructor
    · intro h
      split at h
      · cases h
      · next rest hfront =>
        -- Both end where words end: a longer or shorter one would end within the other.
        have hsplit := List.isPrefixOf?_eq_some_iff_append_eq.1 hfront
        have hends : rest.head?.any isWord = false := by
          have hlast := hword _ (List.getLast_mem hname)
          have hboundary := (Bool.and_eq_true_iff.1 h).2
          simpa [isWordBoundary, List.getLast?_eq_some_getLast hname, hlast] using hboundary
        rcases List.append_eq_append_iff.1 hsplit with ⟨y, hy, hrest⟩ | ⟨y, rfl, hrest⟩
        · cases y with
          | nil => simpa using hy.symm
          | cons d y =>
            rw [hrest] at hends
            simp [hw d (hy ▸ by simp)] at hends
        · cases y with
          | nil => simp
          | cons d y =>
            obtain ⟨rfl, -⟩ := List.cons.inj hrest
            rw [hword c (by simp)] at hc
            cases hc
    · rintro rfl
      have hfront : (x :: w).isPrefixOf? (x :: w ++ c :: s) = some (c :: s) :=
        List.isPrefixOf?_eq_some_iff_append_eq.2 rfl
      have hlast := hw _ (List.getLast_mem hne)
      rw [hfront]
      simp [isWordBoundary, hb, hx, hc, List.getLast?_eq_some_getLast hne, hlast]
  rw [List.cons_append, hasWord, ← List.cons_append, hat,
    hasWord_inside hname hword (fun y hy => hw y (List.mem_cons_of_mem x hy)) (by simpa using hx) hc]

/-- A line that begins with the keyword and a colon refers to the tables whose names are words behind
that. -/
theorem isReferenceTo_keyword (name s : List Char) :
    isReferenceTo name ("Ref".toList ++ ':' :: s) = hasWord name (some ':') s := by
  have hletters : Scan.letters? Reference.keyword.letters ("Ref".toList ++ ':' :: s) =
      some (':' :: s) := Scan.letters?_eq_some_iff.2 ⟨"Ref".toList, rfl, by decide⟩
  unfold isReferenceTo
  rw [Scan.skipBlanks_identifier (isIdentifier_of_all rfl), hletters]
  simp only [Scan.skipBlanks_of_not (c := ':') rfl, Scan.char?_self]

end SchemaText

/-- A plain name is a word. -/
theorem IsPlainName.isWord {n : String} (h : IsPlainName n) : ∀ c ∈ n.toList, isWord c = true := by
  intro c hc
  have hascii := h.2 c hc
  unfold Character.isWord
  rwa [if_pos (lt_of_isAsciiIdent hascii)]

/-- If all names in a relationship are plain, then its line refers to the tables that have one of
these names, and to no other. -/
theorem isReferenceTo_line {n : String} (hn : IsPlainName n) {r : Relationship}
    (hr : ∀ x ∈ r.names, IsPlainName x) :
    isReferenceTo n.toList r.line = decide (n ∈ r.names) := by
  unfold Relationship.names at hr ⊢
  simp only [List.forall_mem_cons] at hr
  obtain ⟨hsourceTable, hsourceColumn, htargetTable, htargetColumn, -⟩ := hr
  have hsplit : r.line = "Ref".toList ++ ':' :: ' ' :: (r.endpoints.source.table.toList ++ '.' ::
      (r.endpoints.source.column.toList ++ ' ' :: (r.cardinality.operator ++ ' ' ::
        (r.endpoints.target.table.toList ++ '.' ::
          (r.endpoints.target.column.toList ++ '\n' :: []))))) := by
    have hcolon : ": ".toList = [':', ' '] := rfl
    rw [Relationship.line_eq]
    unfold Relationship.behindKeyword ColumnRef.dotted
    simp only [hcolon, List.append_assoc, List.cons_append, List.nil_append]
  -- Names and what stands between them take turns on the line.
  have hcons {b : Option Char} {c : Char} (hc : isWord c = false) (s : List Char) :
      hasWord n.toList b (c :: s) = hasWord n.toList (some c) s := hasWord_cons hn.1 hn.isWord hc
  have hword {x : String} (hx : IsPlainName x) {b : Option Char} (hb : b.any isWord = false)
      {c : Char} (hc : isWord c = false) (s : List Char) :
      hasWord n.toList b (x.toList ++ c :: s) =
        (decide (n = x) || hasWord n.toList (some c) s) := by
    simp only [hasWord_append hn.1 hn.isWord hx.1 hx.isWord hb hc, String.toList_inj]
  have hoperator (s : List Char) :
      hasWord n.toList (some ' ') (r.cardinality.operator ++ ' ' :: s) =
        hasWord n.toList (some ' ') s := by
    cases r.cardinality
    case manyToMany => exact (hcons rfl _).trans ((hcons rfl _).trans (hcons rfl s))
    all_goals exact (hcons rfl _).trans (hcons rfl s)
  have hnil : hasWord n.toList (some '\n') [] = false := isWordAt_of_not hn.1 hn.isWord rfl
  rw [hsplit, isReferenceTo_keyword, hcons rfl, hword hsourceTable rfl rfl,
    hword hsourceColumn rfl rfl, hoperator, hword htargetTable rfl rfl,
    hword htargetColumn rfl rfl, hnil]
  simp [Bool.decide_or]

/-! ## Lines that stay -/

namespace SchemaText

variable {name l s : List Char}

/-- A text without line breaks and the break behind it are a line. -/
theorem isLine_break (h : '\n' ∉ l) (s : List Char) : IsLine (l ++ ['\n']) s where
  nonempty := by simp
  single := by rwa [List.dropLast_concat]
  ended := .inl (List.getLast?_concat)

/-- A line is dropped if it refers to the table, and stays if it does not. -/
theorem dropReferences_append (hl : IsLine l s) : dropReferences name (l ++ s) =
    (if isReferenceTo name l then [] else l) ++ dropReferences name s := by
  unfold dropReferences
  rw [hl.brokenLines_append, List.filter_cons]
  cases isReferenceTo name l <;> rfl

/-- Of lines behind each other those that refer to the table are dropped. -/
theorem dropReferences_flatMap {β : Type} {parts : List β} {f : β → List Char}
    (h : ∀ part ∈ parts, ∀ s, IsLine (f part) s) (s : List Char) :
    dropReferences name (parts.flatMap f ++ s) =
      (parts.filter fun part => !isReferenceTo name (f part)).flatMap f ++ dropReferences name s := by
  induction parts with
  | nil => rfl
  | cons part parts ih =>
    rw [List.flatMap_cons, List.append_assoc, dropReferences_append (h part List.mem_cons_self _),
      ih fun x hx => h x (List.mem_cons_of_mem _ hx), List.filter_cons]
    cases isReferenceTo name (f part)
    case true => rfl
    case false => exact (List.append_assoc _ _ _).symm

/-- The line of a column is not taken for a reference. -/
theorem isReferenceTo_column {c : Column} (hc : TextSafeColumn c) :
    isReferenceTo name c.line = false := by
  by_contra hrefers
  have hnone := ofLine?_of_isReferenceTo (Bool.of_not_eq_false hrefers)
  have htrim : Text.trim (c.declaration ++ ['\n']) = Text.trim c.declaration :=
    Text.trim_append_blanks (List.forall_mem_singleton.2 rfl)
  have hsome := Column.ofLine?_declaration hc.legible
  unfold Column.ofLine? at hnone hsome
  rw [Column.line_eq, htrim, hsome] at hnone
  cases hnone

/-- The first line of a block is not taken for a reference. -/
theorem isReferenceTo_blockFront (s : List Char) :
    isReferenceTo name ("Table".toList ++ s) = false := by
  unfold isReferenceTo
  rw [Scan.skipBlanks_identifier (isIdentifier_of_all rfl)]
  rfl

end SchemaText

/-! ## The printed text -/

/-- What is left of the block of a table, and of the line break behind it, when the blocks of the
table `n` are cut. -/
def Table.left (n : String) (t : Table) : List Char :=
  if t.name = n then ['\n', '\n'] else t.block ++ ['\n']

/-- The block of a table is cut if it is one of the table `n`. -/
theorem cutBlocks_block {t : Table} (ht : TextSafeTable t) (n : String) (s : List Char) :
    cutBlocks n.toList (t.block ++ ['\n'] ++ s) = t.left n ++ cutBlocks n.toList s := by
  have hread : Scan.orStay TableBlock.tail? (t.behindKeyword ++ '\n' :: '\n' :: s) =
      (some ⟨t.name.toList, t.body⟩, '\n' :: '\n' :: s) := by
    unfold Scan.orStay
    rw [TableBlock.tail?_behindKeyword ht.name (brace_not_mem_body ht)]
  let chosen (b : TableBlock) : Bool := b.name = n.toList
  have hself : cut TableBlock.keyword (Scan.orStay TableBlock.tail?) chosen
      ("Table".toList ++ (t.behindKeyword ++ '\n' :: '\n' :: s)) = _ :=
    cut_self TableBlock.isWord_keyword (by decide) (by exact stops_cons.2 rfl) hread
      (Breaks.of_stops (stops_cons.2 rfl))
  rw [cut_cons TableBlock.isWord_keyword rfl, cut_cons TableBlock.isWord_keyword rfl] at hself
  have hsplit : t.block ++ ['\n'] ++ s =
      "Table".toList ++ (t.behindKeyword ++ '\n' :: '\n' :: s) := by
    rw [Table.block_eq]
    simp only [List.append_assoc, List.cons_append, List.nil_append]
  rw [hsplit]
  have hchosen : chosen ⟨t.name.toList, t.body⟩ = decide (t.name = n) :=
    decide_eq_decide.2 String.toList_inj
  rw [hchosen] at hself
  refine hself.trans ?_
  unfold Table.left
  rw [Table.block_eq]
  simp only [decide_eq_true_eq, List.append_assoc, List.cons_append, List.nil_append]
  split
  · rfl
  · simp only [List.append_assoc, List.cons_append, List.nil_append]
    rfl

/-- Of the printed text just the blocks of the table are cut. -/
theorem cutBlocks_print {s : Schema} (hs : TextSafeSchema s) (n : String) :
    cutBlocks n.toList s.print.toList =
      s.tables.flatMap (Table.left n) ++ s.relationships.flatMap Relationship.line := by
  let chosen (b : TableBlock) : Bool := b.name = n.toList
  have hlines : cut TableBlock.keyword (Scan.orStay TableBlock.tail?) chosen
      (s.relationships.flatMap Relationship.line) = s.relationships.flatMap Relationship.line :=
    cut_of_constructs_eq_nil (TableBlock.constructs_lines hs.relationships)
  have hblocks {ts : List Table} (hts : ∀ t ∈ ts, TextSafeTable t) (s : List Char) :
      cutBlocks n.toList (ts.flatMap (fun t => t.block ++ ['\n']) ++ s) =
        ts.flatMap (Table.left n) ++ cutBlocks n.toList s := by
    induction ts with
    | nil => rfl
    | cons t ts ih =>
      rw [List.flatMap_cons, List.append_assoc, cutBlocks_block (hts t List.mem_cons_self),
        ih fun x hx => hts x (List.mem_cons_of_mem _ hx), List.flatMap_cons, List.append_assoc]
  unfold Schema.print
  rw [String.toList_ofList, hblocks hs.tables]
  exact congrArg _ hlines

/-- What is left of a block is lines none of which refers to a table. -/
theorem Table.exists_lines_left {t : Table} (ht : TextSafeTable t) (n : String)
    (name : List Char) : ∃ ls : List (List Char), t.left n = ls.flatMap (· ++ ['\n']) ∧
      ∀ l ∈ ls, '\n' ∉ l ∧ isReferenceTo name (l ++ ['\n']) = false := by
  unfold Table.left
  split
  · exact ⟨[[], []], rfl, by simp; rfl⟩
  · have hident : '\n' ∉ t.name.toList := fun hmem => absurd (ht.name.2 _ hmem) (by decide)
    refine ⟨t.lines, t.block_eq_lines, ?_⟩
    unfold Table.lines
    rw [List.forall_mem_cons, List.forall_mem_append, List.forall_mem_map]
    refine ⟨⟨by simpa using hident, ?_⟩, fun c hc => ⟨?_, ?_⟩, by simp; exact ⟨rfl, rfl⟩⟩
    · rw [List.append_assoc]
      exact isReferenceTo_blockFront _
    · exact fun hmem => (Column.not_mem_declaration (ht.columns c hc) _ hmem).1 rfl
    · rw [← Column.line_eq]
      exact isReferenceTo_column (ht.columns c hc)

/-- No line of what is left of the blocks is dropped. -/
theorem dropReferences_left {t : Table} (ht : TextSafeTable t) (n : String) (name s : List Char) :
    dropReferences name (t.left n ++ s) = t.left n ++ dropReferences name s := by
  obtain ⟨ls, hls, hlines⟩ := Table.exists_lines_left ht n name
  rw [hls, dropReferences_flatMap fun l hl => isLine_break (hlines l hl).1,
    List.filter_eq_self.2 fun l hl => by rw [(hlines l hl).2]; rfl]

/-- The line of a relationship is one. -/
theorem Relationship.isLine_line {r : Relationship} (hr : TextSafeRelationship r) (s : List Char) :
    IsLine r.line s := by
  have hbehind := Relationship.break_not_mem_behindKeyword hr
  rw [Relationship.line_eq, ← List.append_assoc]
  exact isLine_break (by simpa using hbehind) s

/-- What remains of the printed text, up to runs of line breaks. -/
theorem dropReferences_cutBlocks_print {s : Schema} (hs : TextSafeSchema s) {n : String}
    (hn : IsPlainName n) (hplain : ∀ r ∈ s.relationships, ∀ x ∈ r.names, IsPlainName x) :
    dropReferences n.toList (cutBlocks n.toList s.print.toList) =
      s.tables.flatMap (Table.left n) ++
        (s.without n).relationships.flatMap Relationship.line := by
  have hblocks {ts : List Table} (hts : ∀ t ∈ ts, TextSafeTable t) (s : List Char) :
      dropReferences n.toList (ts.flatMap (Table.left n) ++ s) =
        ts.flatMap (Table.left n) ++ dropReferences n.toList s := by
    induction ts with
    | nil => rfl
    | cons t ts ih =>
      rw [List.flatMap_cons, List.append_assoc, dropReferences_left (hts t List.mem_cons_self),
        ih fun x hx => hts x (List.mem_cons_of_mem _ hx), List.append_assoc]
  have hlines : dropReferences n.toList (s.relationships.flatMap Relationship.line) =
      (s.without n).relationships.flatMap Relationship.line := by
    have hnil : dropReferences n.toList [] = [] := rfl
    have hisLine : ∀ r ∈ s.relationships, ∀ s, IsLine r.line s :=
      fun r hr => Relationship.isLine_line (hs.relationships r hr)
    rw [← List.append_nil (s.relationships.flatMap Relationship.line),
      dropReferences_flatMap hisLine, hnil, List.append_nil]
    unfold Schema.without
    congr 1
    refine List.filter_congr fun r hr => ?_
    rw [isReferenceTo_line hn (hplain r hr)]
    simp
  rw [cutBlocks_print hs, hblocks hs.tables, hlines]

/-! ## The schema that remains -/

/-- What is left of the blocks declares the other tables. -/
theorem TableBlock.constructs_left {ts : List Table} (hts : ∀ t ∈ ts, TextSafeTable t) (n : String)
    (s : List Char) :
    constructs TableBlock.keyword (Scan.orStay TableBlock.tail?) (ts.flatMap (Table.left n) ++ s) =
      (ts.filter (·.name ≠ n)).map (fun t => ⟨t.name.toList, t.body⟩) ++
        constructs TableBlock.keyword (Scan.orStay TableBlock.tail?) s := by
  induction ts with
  | nil => rfl
  | cons t ts ih =>
    have ht := hts t List.mem_cons_self
    have hrest := ih fun x hx => hts x (List.mem_cons_of_mem _ hx)
    rw [List.flatMap_cons, List.append_assoc]
    unfold Table.left
    by_cases h : t.name = n
    · rw [if_pos h, List.filter_cons_of_neg (by simpa using h), ← hrest]
      exact (constructs_cons isWord_keyword rfl).trans (constructs_cons isWord_keyword rfl)
    · rw [if_neg h, List.filter_cons_of_pos (by simpa using h), List.append_assoc,
        List.singleton_append, constructs_block ht.name (brace_not_mem_body ht)]
      exact congrArg _ hrest

/-- What is left of the blocks adds no reference. -/
theorem Reference.constructs_left {ts : List Table} (hts : ∀ t ∈ ts, TextSafeTable t) (n : String)
    (s : List Char) :
    constructs Reference.keyword (Scan.orStay Reference.tail?) (ts.flatMap (Table.left n) ++ s) =
      constructs Reference.keyword (Scan.orStay Reference.tail?) s := by
  refine constructs_flatMap_idle (fun t ht s => ?_) s
  unfold Table.left
  split
  · exact (constructs_cons isWord_keyword rfl).trans (constructs_cons isWord_keyword rfl)
  · rw [List.append_assoc, List.singleton_append, constructs_block (hts t ht)]

/-- Without a table a schema can still be read back. -/
theorem TextSafeSchema.without {s : Schema} (hs : TextSafeSchema s) (n : String) :
    TextSafeSchema (s.without n) where
  tables t ht := hs.tables t (List.mem_of_mem_filter ht)
  relationships r hr := hs.relationships r (List.mem_of_mem_filter hr)

/-- In the printed text of a schema the removal of a table leaves what is printed for the schema
without the tables of that name and without the relationships in which the name occurs, as far as
the text is read. -/
theorem Schema.parse_removeTable_print {s : Schema} {n : String} (hs : TextSafeSchema s)
    (hplain : ∀ r ∈ s.relationships, ∀ x ∈ r.names, IsPlainName x) (hn : IsPlainName n) :
    Schema.parse (removeTable s.print n) = Schema.parse (s.without n).print := by
  have hless := hs.without n
  have htables := TableBlock.constructs_print hless.tables hless.relationships
  have hreferences := Reference.constructs_print hless.tables hless.relationships
  have hdeclared : Schema.declaredBy (removeTable s.print n).toList =
      Schema.declaredBy (s.without n).print.toList := by
    unfold removeTable
    rw [String.toList_ofList, Schema.declaredBy_squeezeBreaks,
      dropReferences_cutBlocks_print hs hn hplain]
    unfold Schema.declaredBy Schema.print
    rw [TableBlock.constructs_left hs.tables, TableBlock.constructs_lines hless.relationships,
      Reference.constructs_left hs.tables, Reference.constructs_lines hless.relationships,
      String.toList_ofList, htables, hreferences, List.append_nil]
    rfl
  rw [Schema.parse_eq, Schema.parse_eq, hdeclared]

/-- A schema with a table `user`, a column of the same name elsewhere, and names that contain that
name. -/
def neighbourSchema : Schema :=
  { tables :=
      [⟨"user", [{ name := "id", type := "int", isPrimaryKey := true }]⟩,
      ⟨"users", [
        { name := "user", type := "table", note := some "user: it's one, too" },
        { name := "user_id", type := "int", defaultValue := some "user('a,b')" }]⟩,
      ⟨"user", []⟩,
      ⟨"ref", [{ name := "ref", type := "user" }]⟩]
    relationships :=
      [⟨⟨⟨"users", "user_id"⟩, ⟨"user", "id"⟩⟩, .manyToOne⟩,
      ⟨⟨⟨"users", "user_id"⟩, ⟨"ref", "ref"⟩⟩, .manyToMany⟩,
      ⟨⟨⟨"ref", "ref"⟩, ⟨"users", "user"⟩⟩, .oneToOne⟩] }

/-- That schema is read back. -/
theorem textSafe_neighbourSchema : TextSafeSchema neighbourSchema := by
  have hnote : SafeNote "user: it's one, too".toList := by
    constructor
    · exact within_of_all rfl
    · decide
    · unfold NoReference
      decide
  have hdefault : SafeDefault "user('a,b')".toList := by
    have hquoted : Setting.Balanced ('\'' :: ("a,b".toList ++ '\'' :: ")".toList)) :=
      Setting.Balanced.quoted rfl (by decide) (Setting.balanced_of_plain rfl).1
    constructor
    · rfl
    · exact within_of_all rfl
    · exact (Setting.balanced_of_plain (s := "user(".toList) rfl).1.append hquoted
    · exact NoReference.of_not_mem (by decide)
  constructor
  · intro t ht
    simp only [neighbourSchema, List.mem_cons, List.not_mem_nil, or_false] at ht
    rcases ht with rfl | rfl | rfl | rfl
    case inr.inr.inl => exact ⟨isIdentifier_of_all rfl, by simp⟩
    all_goals
      refine ⟨isIdentifier_of_all rfl, fun c hc => ?_⟩
      simp only [List.mem_cons, List.not_mem_nil, or_false] at hc
    case inl | inr.inr.inr =>
      subst hc
      exact ⟨isIdentifier_of_all rfl, isIdentifier_of_all rfl, by decide +kernel, by simp, by simp⟩
    case inr.inl =>
      rcases hc with rfl | rfl
      · refine ⟨isIdentifier_of_all rfl, isIdentifier_of_all rfl, by decide +kernel, by simp, ?_⟩
        simpa using hnote
      · refine ⟨isIdentifier_of_all rfl, isIdentifier_of_all rfl, by decide +kernel, ?_, by simp⟩
        simpa using hdefault
  · intro r hr
    simp only [neighbourSchema, List.mem_cons, List.not_mem_nil, or_false] at hr
    rcases hr with rfl | rfl | rfl <;>
      exact ⟨isIdentifier_of_all rfl, isIdentifier_of_all rfl, isIdentifier_of_all rfl,
        isIdentifier_of_all rfl⟩

/-- The removal of `user` takes its two blocks and the two references that have the name, that of a
column among them, and nothing else. -/
theorem parse_removeTable_neighbourSchema :
    TextSafeSchema neighbourSchema ∧
      (∀ r ∈ neighbourSchema.relationships, ∀ x ∈ r.names, IsPlainName x) ∧ IsPlainName "user" ∧
      Schema.parse (removeTable neighbourSchema.print "user") =
        { tables :=
            [⟨"users", [
              { name := "user", type := "table", note := some "user: it's one, too" },
              { name := "user_id", type := "int", isForeignKey := true,
                defaultValue := some "user('a,b')" }]⟩,
            ⟨"ref", [{ name := "ref", type := "user" }]⟩]
          relationships := [⟨⟨⟨"users", "user_id"⟩, ⟨"ref", "ref"⟩⟩, .manyToMany⟩] } := by
  have hplain : ∀ r ∈ neighbourSchema.relationships, ∀ x ∈ r.names, IsPlainName x := by
    intro r hr
    simp only [neighbourSchema, List.mem_cons, List.not_mem_nil, or_false] at hr
    rcases hr with rfl | rfl | rfl <;>
      exact List.forall_mem_cons.2 ⟨isPlainName_of_all rfl, List.forall_mem_cons.2
        ⟨isPlainName_of_all rfl, List.forall_mem_cons.2 ⟨isPlainName_of_all rfl,
          List.forall_mem_singleton.2 (isPlainName_of_all rfl)⟩⟩⟩
  have hname : IsPlainName "user" := isPlainName_of_all rfl
  refine ⟨textSafe_neighbourSchema, hplain, hname, ?_⟩
  rw [Schema.parse_removeTable_print textSafe_neighbourSchema hplain hname]
  decide +kernel

end SchemaDiagram
