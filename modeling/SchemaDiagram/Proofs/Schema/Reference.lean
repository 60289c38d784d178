import SchemaDiagram.Proofs.Text.Blank
import SchemaDiagram.Proofs.Text.Search
import SchemaDiagram.Schema.Parse
import SchemaDiagram.Schema.Print

/-!
# References that are read back

A reference begins with a word and a colon. A text in which `ref:` does not occur has none, whatever
its words are (`constructs_of_noReference`), and the line of a relationship has just the one it
says (`Reference.constructs_line`), also where tables and columns are called `ref`. Such a line
holds no table block (`TableBlock.constructs_line`), even if one of its names is `table`.
-/

namespace SchemaDiagram

open Character

/-- In no case do the characters `ref:` occur in the text. -/
def NoReference (s : List Char) : Prop :=
  ¬"ref:".toList <:+: s.map Char.toLower

/-- The four names of a relationship are identifiers. -/
structure TextSafeRelationship (r : Relationship) : Prop where
  /-- The table it starts at has an identifier for a name. -/
  sourceTable : IsIdentifier r.endpoints.source.table.toList
  /-- The column it starts at has one, too. -/
  sourceColumn : IsIdentifier r.endpoints.source.column.toList
  /-- The table it leads to has one, too. -/
  targetTable : IsIdentifier r.endpoints.target.table.toList
  /-- The column it leads to has one, too. -/
  targetColumn : IsIdentifier r.endpoints.target.column.toList

variable {p s t : List Char}

/-! ## Texts without references -/

/-- A text without a colon has no references. -/
theorem NoReference.of_not_mem (h : ':' ∉ s) : NoReference s := by
  intro hoccurs
  have hmem : ':' ∈ s.map Char.toLower := hoccurs.subset (by decide)
  obtain ⟨c, hc, hlower⟩ := List.mem_map.1 hmem
  -- Only a colon has the lower case of a colon.
  have hcode : c.toLower.toNat = 58 := by
    rw [hlower]
    rfl
  have hcolon : c = ':' := by
    rw [toNat_toLower] at hcode
    refine Char.toNat_inj.1 ?_
    show c.toNat = 58
    split at hcode <;> omega
  exact h (hcolon ▸ hc)

/-- An identifier has no colon, and so no references. -/
theorem NoReference.identifier (h : IsIdentifier s) : NoReference s :=
  NoReference.of_not_mem fun hmem => absurd (h.2 _ hmem) (by decide)

/-- A character that is not of `ref:` divides a text into parts whose references are all there
are. -/
theorem noReference_append_cons {m : Char} (hm : m.toLower ∉ "ref:".toList) :
    NoReference (s ++ m :: t) ↔ NoReference s ∧ NoReference t := by
  unfold NoReference
  rw [List.map_append, List.map_cons, Text.infix_append_cons hm, not_or]

/-- The same for such a character in front of a text. -/
theorem noReference_cons {m : Char} (hm : m.toLower ∉ "ref:".toList) :
    NoReference (m :: t) ↔ NoReference t := by
  have hsplit := noReference_append_cons (s := []) (t := t) hm
  rw [List.nil_append] at hsplit
  rw [hsplit]
  exact and_iff_right (NoReference.of_not_mem List.not_mem_nil)

/-- A part of a text has no references if the text has none. -/
theorem NoReference.of_append (h : NoReference (p ++ s)) : NoReference s := by
  intro hoccurs
  rw [NoReference, List.map_append] at h
  exact h (hoccurs.trans (List.suffix_append _ _).isInfix)

/-- Without a colon ahead no reference is read. -/
theorem Reference.tail?_of_ne (h : s.head? ≠ some ':') : Reference.tail? s = none := by
  unfold Reference.tail?
  rw [Scan.char?_of_ne h]
  rfl

/-- The keyword of references is a word. -/
theorem Reference.isWord_keyword : IsWord Reference.keyword.letters :=
  isWord_of_all rfl

/-- The keyword of table blocks is a word. -/
theorem TableBlock.isWord_keyword : IsWord TableBlock.keyword.letters :=
  isWord_of_all rfl

/-- A text in which `ref:` does not occur adds no reference. -/
theorem constructs_of_noReference (hp : NoReference p) (hs : Stops s)
    (hcolon : s.head? ≠ some ':') :
    constructs Reference.keyword (Scan.orStay Reference.tail?) (p ++ s) =
      constructs Reference.keyword (Scan.orStay Reference.tail?) s := by
  induction p using text_induction with
  | nil => rfl
  | cons c p hc ih =>
    rw [List.cons_append, constructs_cons Reference.isWord_keyword hc]
    exact ih (NoReference.of_append (p := [c]) hp)
  | word w p hw hstops ih =>
    have hrest := ih hp.of_append
    rw [List.append_assoc, ← hrest]
    -- Where the identifier ends, the rest of the text or what follows it begins.
    have hps : Stops (p ++ s) := by
      cases p with
      | nil => exact hs
      | cons c p => exact stops_cons.2 (stops_cons.1 hstops)
    by_cases hword : Text.sameLetters w Reference.keyword.letters = true
    · -- The identifier is `ref` in some case, so the text behind it has no colon in front.
      refine constructs_orStay Reference.isWord_keyword hw hps (Reference.tail?_of_ne ?_)
      intro hhead
      cases p with
      | nil => exact hcolon hhead
      | cons c p =>
        obtain rfl : c = ':' := by simpa using hhead
        have hletters : w.map Char.toLower = "ref".toList := by
          exact beq_iff_eq.1 hword
        refine hp ?_
        rw [List.map_append, List.map_cons, hletters]
        exact ⟨[], p.map Char.toLower, rfl⟩
    · exact constructs_word Reference.isWord_keyword hw.2 hps (by simpa using hword)

/-- In a text in which `ref:` does not occur no reference is read. -/
theorem NoReference.constructs_eq_nil (h : NoReference s) :
    constructs Reference.keyword (Scan.orStay Reference.tail?) s = [] := by
  have hskip := constructs_of_noReference h stops_nil (by simp)
  rwa [List.append_nil, constructs_nil] at hskip

/-! ## The line of a relationship -/

/-- An operator stands for the cardinality that it was written for. -/
theorem Cardinality.ofOperator_operator (c : Cardinality) :
    Cardinality.ofOperator c.operator = c := by
  cases c <;> rfl

/-- An operator is read back. -/
theorem Reference.operator?_append (c : Cardinality) (s : List Char) :
    Reference.operator? (c.operator ++ ' ' :: s) = some (c, ' ' :: s) := by
  have hall : ∀ x ∈ c.operator, Reference.isOperatorChar x = true := by
    cases c <;> exact List.all_eq_true.1 rfl
  have htake : (c.operator ++ ' ' :: s).takeWhile Reference.isOperatorChar = c.operator := by
    rw [List.takeWhile_append_of_pos hall]
    exact List.append_nil _
  have hdrop : (c.operator ++ ' ' :: s).dropWhile Reference.isOperatorChar = ' ' :: s := by
    rw [List.dropWhile_append_of_pos hall]
    rfl
  have hne : c.operator ≠ [] := by
    cases c <;> exact List.cons_ne_nil _ _
  unfold Reference.operator?
  rw [htake, hdrop]
  split
  · next hnil => exact absurd hnil hne
  · rw [Cardinality.ofOperator_operator]

/-- The name of a column and its table is read back. -/
theorem Reference.columnRef?_append {r : ColumnRef} (htable : IsIdentifier r.table.toList)
    (hcolumn : IsIdentifier r.column.toList) (hs : Stops s) :
    Reference.columnRef? (r.dotted ++ s) = some (r, s) := by
  have hsplit : r.dotted ++ s = r.table.toList ++ ('.' :: (r.column.toList ++ s)) := by
    unfold ColumnRef.dotted
    simp only [List.append_assoc, List.cons_append, List.nil_append]
  unfold Reference.columnRef?
  rw [hsplit, Scan.ident?_append htable (stops_cons.2 rfl)]
  simp only [Option.bind_eq_bind, Option.bind_some, Scan.char?_self, Scan.ident?_append hcolumn hs,
    String.ofList_toList]
  rfl

/-- The line of a relationship behind its keyword. -/
def Relationship.behindKeyword (r : Relationship) : List Char :=
  ": ".toList ++ r.endpoints.source.dotted ++ [' '] ++ r.cardinality.operator ++ [' '] ++
    r.endpoints.target.dotted

/-- The line of a relationship is its keyword, what comes behind it, and the end of the line. -/
theorem Relationship.line_eq (r : Relationship) :
    r.line = "Ref".toList ++ (r.behindKeyword ++ ['\n']) := by
  have hkeyword : "Ref: ".toList = "Ref".toList ++ ": ".toList := rfl
  unfold Relationship.line Relationship.behindKeyword
  simp only [hkeyword, List.append_assoc]

/-- The line of a relationship has no break before its end. -/
theorem Relationship.break_not_mem_behindKeyword {r : Relationship} (hr : TextSafeRelationship r) :
    '\n' ∉ r.behindKeyword := by
  have hname {w : List Char} (hw : IsIdentifier w) : '\n' ∉ w := hw.not_mem rfl
  have hoperator : '\n' ∉ r.cardinality.operator := by
    cases r.cardinality <;> decide
  unfold Relationship.behindKeyword ColumnRef.dotted
  simp [hname hr.sourceTable, hname hr.sourceColumn, hname hr.targetTable, hname hr.targetColumn,
    hoperator]

/-- Blanks in front of the name of a column and its table are passed over. -/
theorem skipBlanks_dotted {r : ColumnRef} (htable : IsIdentifier r.table.toList) (s : List Char) :
    Scan.skipBlanks (' ' :: (r.dotted ++ s)) = r.dotted ++ s := by
  rw [Scan.skipBlanks_cons rfl]
  unfold ColumnRef.dotted
  rw [List.append_assoc, List.append_assoc]
  exact Scan.skipBlanks_identifier htable

/-- The relationship of a line is read behind its keyword. -/
theorem Reference.tail?_behindKeyword {r : Relationship} (hr : TextSafeRelationship r)
    (hs : Stops s) : Reference.tail? (r.behindKeyword ++ s) = some (r, s) := by
  have hsplit : r.behindKeyword ++ s = ':' :: ' ' :: (r.endpoints.source.dotted ++ ' ' ::
      (r.cardinality.operator ++ ' ' :: (r.endpoints.target.dotted ++ s))) := by
    have hcolon : ": ".toList = [':', ' '] := rfl
    unfold Relationship.behindKeyword
    simp only [hcolon, List.append_assoc, List.cons_append, List.nil_append]
  -- Each part is read where the one before it ends, behind a space.
  have hoperator (s : List Char) : Scan.skipBlanks (' ' :: (r.cardinality.operator ++ s)) =
      r.cardinality.operator ++ s := by
    rw [Scan.skipBlanks_cons rfl]
    cases r.cardinality <;> exact Scan.skipBlanks_of_not rfl
  have hsource := Reference.columnRef?_append hr.sourceTable hr.sourceColumn (s := ' ' ::
    (r.cardinality.operator ++ ' ' :: (r.endpoints.target.dotted ++ s))) (stops_cons.2 rfl)
  unfold Reference.tail?
  rw [hsplit]
  simp only [Option.bind_eq_bind, Option.bind_some, Scan.char?_self,
    skipBlanks_dotted hr.sourceTable, hsource, hoperator, Reference.operator?_append,
    skipBlanks_dotted hr.targetTable, Reference.columnRef?_append hr.targetTable hr.targetColumn hs]
  rfl

/-- The line of a relationship is read as that relationship. -/
theorem Reference.constructs_line {r : Relationship} (hr : TextSafeRelationship r) (s : List Char) :
    constructs Reference.keyword (Scan.orStay Reference.tail?) (r.line ++ s) =
      r :: constructs Reference.keyword (Scan.orStay Reference.tail?) s := by
  have hread : Scan.orStay Reference.tail? (r.behindKeyword ++ '\n' :: s) =
      (some r, '\n' :: s) := by
    unfold Scan.orStay
    rw [Reference.tail?_behindKeyword hr (stops_cons.2 rfl)]
  have hself := constructs_self Reference.isWord_keyword (w := "Ref".toList) (by decide)
    (by exact stops_cons.2 rfl) hread (Breaks.of_stops (stops_cons.2 rfl))
  rw [Relationship.line_eq]
  simp only [List.append_assoc, List.cons_append, List.nil_append]
  rw [hself, constructs_cons Reference.isWord_keyword rfl]
  rfl

/-- The lines of relationships are read as those relationships. -/
theorem Reference.constructs_lines {rs : List Relationship}
    (hrs : ∀ r ∈ rs, TextSafeRelationship r) :
    constructs Reference.keyword (Scan.orStay Reference.tail?)
      (rs.flatMap Relationship.line) = rs := by
  have hflat := constructs_flatMap (g := fun r => [r])
    (fun r hr s => Reference.constructs_line (hrs r hr) s) []
  rwa [List.append_nil, constructs_nil, List.append_nil, List.flatMap_singleton'] at hflat

/-! ## No table blocks among references -/

/-- Where no blank follows, no table block does. -/
theorem TableBlock.tail?_of_not_blank {c : Char} (hc : isBlank c = false) (s : List Char) :
    TableBlock.tail? (c :: s) = none := by
  unfold TableBlock.tail?
  rw [Scan.blanks?_of_not hc]
  rfl

/-- Where a blank and something other than an identifier follow, no table block does. -/
theorem TableBlock.tail?_of_stops {c : Char} (hc : isBlank c = true)
    (hs : Stops (Scan.skipBlanks s)) : TableBlock.tail? (c :: s) = none := by
  unfold TableBlock.tail?
  rw [Scan.blanks?_cons hc]
  simp only [Option.bind_eq_bind, Option.bind_some, Scan.ident?_of_stops hs]
  rfl

/-- Where the name of a table is followed by something other than a brace, no table block is. -/
theorem TableBlock.tail?_of_ne {b c : Char} {w : List Char} (hb : isBlank b = true)
    (hw : IsIdentifier w) (hc : isIdent c = false) (hblank : isBlank c = false) (hne : c ≠ '{')
    (s : List Char) : TableBlock.tail? (b :: (w ++ c :: s)) = none := by
  have hbrace : Scan.char? '{' (Scan.skipBlanks (c :: s)) = none := by
    rw [Scan.skipBlanks_of_not hblank]
    exact Scan.char?_of_ne (by simpa using hne)
  unfold TableBlock.tail?
  rw [Scan.blanks?_cons hb, Scan.skipBlanks_identifier hw]
  simp only [Option.bind_eq_bind, Option.bind_some, Scan.ident?_append hw (stops_cons.2 hc), hbrace]
  rfl

/-- The name of a column and its table, with no table block behind it, holds none. -/
theorem TableBlock.constructs_dotted {r : ColumnRef} (htable : IsIdentifier r.table.toList)
    (hcolumn : IsIdentifier r.column.toList) (hs : Stops s) (htail : TableBlock.tail? s = none) :
    constructs TableBlock.keyword (Scan.orStay TableBlock.tail?) (r.dotted ++ s) =
      constructs TableBlock.keyword (Scan.orStay TableBlock.tail?) s := by
  have hsplit : r.dotted ++ s = r.table.toList ++ ('.' :: (r.column.toList ++ s)) := by
    unfold ColumnRef.dotted
    simp only [List.append_assoc, List.cons_append, List.nil_append]
  have hword := TableBlock.isWord_keyword
  rw [hsplit, constructs_orStay hword htable (stops_cons.2 rfl) (TableBlock.tail?_of_not_blank rfl _),
    constructs_cons hword rfl, constructs_orStay hword hcolumn hs htail]

/-- The operator between two columns consists of characters outside identifiers. -/
theorem Cardinality.isIdent_of_mem_operator {c : Cardinality} {x : Char} (h : x ∈ c.operator) :
    isIdent x = false := by
  have hall : ∀ x ∈ c.operator, (!isIdent x) = true := by
    cases c <;> exact List.all_eq_true.1 (by decide)
  simpa using hall x h

/-- The line of a relationship holds no table block if none begins at its end. -/
theorem TableBlock.constructs_line {r : Relationship} (hr : TextSafeRelationship r)
    (hs : TableBlock.tail? ('\n' :: s) = none) :
    constructs TableBlock.keyword (Scan.orStay TableBlock.tail?) (r.line ++ s) =
      constructs TableBlock.keyword (Scan.orStay TableBlock.tail?) s := by
  have hword := TableBlock.isWord_keyword
  -- A name may be the keyword, but a point, an operator or the end of the line follows it.
  have hoperator (t : List Char) :
      TableBlock.tail? (' ' :: (r.cardinality.operator ++ t)) = none := by
    refine TableBlock.tail?_of_stops rfl ?_
    cases r.cardinality <;> exact stops_cons.2 rfl
  have hskip (t : List Char) :
      constructs TableBlock.keyword (Scan.orStay TableBlock.tail?)
        (r.cardinality.operator ++ t) =
      constructs TableBlock.keyword (Scan.orStay TableBlock.tail?) t := by
    have hident : ∀ x ∈ r.cardinality.operator, isIdent x = false :=
      fun x => Cardinality.isIdent_of_mem_operator
    refine constructs_append hword (fun w hw => ?_) (Breaks.of_forall hident)
    rw [identifiers_of_forall hident] at hw
    cases hw
  have hkeyword : "Ref: ".toList = "Ref".toList ++ [':', ' '] := rfl
  unfold Relationship.line
  simp only [hkeyword, List.append_assoc, List.cons_append, List.nil_append]
  rw [constructs_word hword (isIdentifier_of_all rfl).2 (stops_cons.2 rfl) (by decide),
    constructs_cons hword rfl, constructs_cons hword rfl,
    TableBlock.constructs_dotted hr.sourceTable hr.sourceColumn (stops_cons.2 rfl) (hoperator _),
    constructs_cons hword rfl, hskip, constructs_cons hword rfl,
    TableBlock.constructs_dotted hr.targetTable hr.targetColumn (stops_cons.2 rfl) hs,
    constructs_cons hword rfl]

/-- The lines of relationships hold no table block. -/
theorem TableBlock.constructs_lines {rs : List Relationship}
    (hrs : ∀ r ∈ rs, TextSafeRelationship r) :
    constructs TableBlock.keyword (Scan.orStay TableBlock.tail?)
      (rs.flatMap Relationship.line) = [] := by
  induction rs with
  | nil => exact constructs_nil
  | cons r rs ih =>
    -- What comes behind the last name of a line is the next line or nothing.
    have hnext : TableBlock.tail? ('\n' :: rs.flatMap Relationship.line) = none := by
      cases rs with
      | nil => rfl
      | cons r' rs =>
        rw [List.flatMap_cons, Relationship.line_eq, List.append_assoc]
        exact TableBlock.tail?_of_ne rfl (isIdentifier_of_all rfl) (c := ':') rfl rfl (by decide) _
    rw [List.flatMap_cons, TableBlock.constructs_line (hrs r List.mem_cons_self) hnext,
      ih fun x hx => hrs x (List.mem_cons_of_mem _ hx)]

end SchemaDiagram
