import SchemaDiagram.Proofs.Schema.Block
import SchemaDiagram.Proofs.Schema.LineBreak
import SchemaDiagram.Proofs.Text.Outside

/-!
# The grammar of schema text

What completes a table block or a reference behind its keyword is said here without a reader
(`TableBlock.Completes`, `Reference.Completes`), and the readers take just these texts. So the blocks
and the references of a text are the leftmost ones that stand in it, whatever else is in the text
(`TableBlock.leftmost_findAll`, `Schema.leftmost_relationships`): one that begins within an unfinished
one is found, and none is found within a finished one.
-/

namespace SchemaDiagram

open Character

/-! ## What the readers take -/

namespace Scan

variable {s rest w : List Char}

/-- Behind blanks a text begins with a blank or as it does without them. -/
theorem head?_blanks_append {f : Char → Bool} {gap : List Char}
    (hgap : ∀ c ∈ gap, isBlank c = true) (hf : ∀ c, isBlank c = true → f c = false)
    (hs : s.head?.any f = false) : (gap ++ s).head?.any f = false := by
  cases gap with
  | nil => exact hs
  | cons c gap => exact hf c (hgap c List.mem_cons_self)

/-- Blanks that are read stand in front, and there is at least one. -/
theorem exists_of_blanks? (h : blanks? s = some rest) :
    ∃ gap, gap ≠ [] ∧ (∀ c ∈ gap, isBlank c = true) ∧ s = gap ++ rest := by
  cases s with
  | nil => cases h
  | cons c s =>
    rw [blanks?, Option.ite_none_right_eq_some, Option.some.injEq] at h
    obtain ⟨hc, rfl⟩ := h
    obtain ⟨gap, hgap, hs⟩ := exists_skipBlanks s
    refine ⟨c :: gap, List.cons_ne_nil c gap, List.forall_mem_cons.2 ⟨hc, hgap⟩, ?_⟩
    rw [List.cons_append, ← hs]

/-- A text up to a character does not have that character. -/
theorem not_mem_of_until? {c : Char} (h : until? [c] s = some (w, rest)) : c ∉ w := by
  have hmem : c ∈ s := by
    by_contra hnot
    rw [until?_of_not_mem hnot] at h
    cases h
  obtain ⟨a, b, rfl, ha⟩ := List.eq_append_cons_of_mem hmem
  rw [until?_singleton ha] at h
  cases h
  exact ha

end Scan

/-! ## Table blocks -/

namespace TableBlock

/-- The texts that complete a table block behind its keyword: one or more blanks, the name, which may
be followed by blanks, and the body in braces, which ends at the first closing one. -/
inductive Completes : List Char → TableBlock → Prop where
  | intro {gap name gapBehind body : List Char} (gap_ne : gap ≠ [])
    (isBlank_gap : ∀ c ∈ gap, isBlank c = true) (isIdentifier_name : IsIdentifier name)
    (isBlank_gapBehind : ∀ c ∈ gapBehind, isBlank c = true) (brace : '}' ∉ body) :
    Completes (gap ++ (name ++ (gapBehind ++ '{' :: (body ++ ['}'])))) ⟨name, body⟩

/-- The reader of table blocks takes the texts that complete one. -/
theorem recognizes_tail? : Scan.Recognizes tail? Completes where
  reads s b rest := by
    constructor
    · intro h
      unfold tail? at h
      simp only [Option.bind_eq_bind, Option.bind_eq_some_iff] at h
      obtain ⟨behind, hgap, ⟨name, behind'⟩, hname, body', hbrace, ⟨body, behind''⟩, hbody, hb⟩ := h
      cases hb
      obtain ⟨gap, hne, hblank, rfl⟩ := Scan.exists_of_blanks? hgap
      obtain rfl := Scan.eq_append_of_ident? hname
      obtain ⟨gapBehind, hblank', hbehind⟩ := Scan.exists_skipBlanks behind'
      rw [Scan.eq_cons_of_char? hbrace, Scan.eq_append_of_until? hbody] at hbehind
      refine ⟨_, ?_, Completes.intro hne hblank (Scan.isIdentifier_of_ident? hname) hblank'
        (Scan.not_mem_of_until? hbody), ?_⟩
      · simp [hbehind]
      · refine Breaks.of_last ?_
        rw [← List.append_assoc, ← List.append_assoc, ← List.cons_append, ← List.append_assoc,
          List.getLast?_concat]
        rfl
    · rintro ⟨_, rfl, ⟨hne, hblank, hname, hblank', hbrace⟩, -⟩
      rename_i gap name gapBehind body
      have hread := Front.tail?_behindWord
        ⟨"table".toList, gap, name, gapBehind, rfl, hne, hblank, hname, hblank'⟩ hbrace rest
      simpa [Front.behindWord] using hread
  front t b h := by
    obtain ⟨hne, hblank⟩ := h
    rename_i gap name gapBehind body
    obtain ⟨c, gap, rfl⟩ := List.exists_cons_of_ne_nil hne
    exact ⟨c, _, List.cons_append, isIdent_of_isBlank (hblank c List.mem_cons_self)⟩

/-- The table blocks of a text are the leftmost ones that stand in it, and any of them can be cut out
of the text from the last to the first. -/
theorem leftmost_findAll (s : List Char) :
    (∀ xs, Leftmost (Stands keyword Completes s) 0 xs ↔ xs = (findAll s).map Occurrence.span) ∧
      ∀ os, os.Sublist (findAll s) → Cuttable s os :=
  ⟨Cursor.leftmost_iff isWord_keyword recognizes_tail? s,
    fun _ hos => Cursor.cuttable_of_sublist hos⟩

/-- A block without a closing brace takes the text up to the next one. -/
example : (findAll "Table a \x7b Table b \x7b x \x7d y \x7d".toList).map Occurrence.span =
    [⟨0, 23, ⟨"a".toList, " Table b \x7b x ".toList⟩⟩] := by decide +kernel

end TableBlock

/-! ## References -/

/-- The cardinality that an operator stands for. -/
inductive Cardinality.Means : List Char → Cardinality → Prop where
  | manyToOne : Means ['>'] .manyToOne
  | oneToOne : Means ['-'] .oneToOne
  | manyToMany : Means ['<', '>'] .manyToMany
  /-- Whatever is none of these stands for one-to-many. -/
  | oneToMany {operator : List Char} (other : operator ∉ [['>'], ['-'], ['<', '>']]) :
    Means operator .oneToMany

/-- An operator is read as the cardinality that it stands for. -/
theorem Cardinality.means_iff {operator : List Char} {c : Cardinality} :
    Means operator c ↔ ofOperator operator = c := by
  constructor
  · rintro (_ | _ | _ | hother)
    · rfl
    · rfl
    · rfl
    · simp only [List.mem_cons, List.not_mem_nil, or_false, not_or] at hother
      unfold ofOperator
      rw [if_neg hother.1, if_neg hother.2.1, if_neg hother.2.2]
  · rintro rfl
    unfold ofOperator
    split_ifs with hmany hone hboth
    · exact hmany ▸ Means.manyToOne
    · exact hone ▸ Means.oneToOne
    · exact hboth ▸ Means.manyToMany
    · exact Means.oneToMany (by simp [hmany, hone, hboth])

namespace Reference

variable {s rest : List Char}

/-- The texts that complete a reference behind its keyword: a colon, and the names of the two columns
with an operator between them. Blanks may stand before and behind the operator and behind the
colon. -/
inductive Completes : List Char → Relationship → Prop where
  | intro {gap gapBefore operator gapBehind : List Char} {r : Relationship}
    (isBlank_gap : ∀ c ∈ gap, isBlank c = true) (names : TextSafeRelationship r)
    (isBlank_gapBefore : ∀ c ∈ gapBefore, isBlank c = true) (operator_ne : operator ≠ [])
    (isOperatorChar_operator : ∀ c ∈ operator, isOperatorChar c = true)
    (means : Cardinality.Means operator r.cardinality)
    (isBlank_gapBehind : ∀ c ∈ gapBehind, isBlank c = true) :
    Completes (':' :: (gap ++ (r.endpoints.source.dotted ++ (gapBefore ++ (operator ++
      (gapBehind ++ r.endpoints.target.dotted)))))) r

/-- The name of a column and its table that is read stands in front. -/
theorem eq_append_of_columnRef? {r : ColumnRef} (h : columnRef? s = some (r, rest)) :
    s = r.dotted ++ rest := by
  unfold columnRef? at h
  simp only [Option.bind_eq_bind, Option.bind_eq_some_iff] at h
  obtain ⟨⟨table, behind⟩, htable, behind', hpoint, ⟨column, behind''⟩, hcolumn, hr⟩ := h
  cases hr
  have hbehind : behind = '.' :: (column ++ behind'') := by
    rw [← Scan.eq_append_of_ident? hcolumn, ← Scan.eq_cons_of_char? hpoint]
  rw [Scan.eq_append_of_ident? htable, hbehind]
  simp [ColumnRef.dotted]

/-- An operator that is read stands in front. -/
theorem exists_of_operator? {c : Cardinality} (h : operator? s = some (c, rest)) :
    ∃ operator, s = operator ++ rest ∧ operator ≠ [] ∧
      (∀ x ∈ operator, isOperatorChar x = true) ∧ Cardinality.Means operator c := by
  unfold operator? at h
  split at h
  · cases h
  · next operator hne =>
    cases h
    exact ⟨_, List.takeWhile_append_dropWhile.symm, hne, fun _ hx => List.mem_takeWhile_imp hx,
      Cardinality.means_iff.2 rfl⟩

/-- The characters of operators are neither blanks nor of identifiers. -/
theorem not_blank_of_isOperatorChar {c : Char} (h : isOperatorChar c = true) :
    isBlank c = false ∧ isIdent c = false := by
  have hc : c = '<' ∨ c = '>' ∨ c = '-' := by simpa [isOperatorChar, or_assoc] using h
  rcases hc with rfl | rfl | rfl <;> exact ⟨rfl, rfl⟩

/-- An operator is read up to where no character of operators goes on. -/
theorem operator?_of_forall {operator : List Char} {c : Cardinality} (hne : operator ≠ [])
    (hall : ∀ x ∈ operator, isOperatorChar x = true) (hmeans : Cardinality.Means operator c)
    (hs : s.head?.any isOperatorChar = false) : operator? (operator ++ s) = some (c, s) := by
  obtain ⟨htake, hdrop⟩ := Scan.takeWhile_append_of_head? hs operator
  rw [List.takeWhile_eq_self_iff.2 hall] at htake
  rw [List.dropWhile_eq_nil_iff.2 hall, List.nil_append] at hdrop
  unfold operator?
  rw [htake, hdrop]
  obtain ⟨x, operator, rfl⟩ := List.exists_cons_of_ne_nil hne
  simp only [Cardinality.means_iff.1 hmeans]

/-- The name of a column and its table begins with an identifier character. -/
theorem head?_dotted {r : ColumnRef} {f : Char → Bool} (htable : IsIdentifier r.table.toList)
    (hf : ∀ c, isIdent c = true → f c = false) (s : List Char) :
    (r.dotted ++ s).head?.any f = false := by
  obtain ⟨c, table, hc⟩ := List.exists_cons_of_ne_nil htable.1
  unfold ColumnRef.dotted
  rw [hc]
  exact hf c (htable.2 c (hc ▸ List.mem_cons_self))

/-- A text that completes a reference is read, if no identifier goes on behind it. -/
theorem tail?_of_completes {t : List Char} {r : Relationship} (h : Completes t r)
    (hs : Stops s) : tail? (t ++ s) = some (r, s) := by
  obtain ⟨hgap, hsafe, hgapBefore, hne, hall, hmeans, hgapBehind⟩ := h
  rename_i gap gapBefore operator gapBehind
  obtain ⟨x, hx, hfront⟩ : ∃ x, isOperatorChar x = true ∧ ∀ s, (operator ++ s).head? = some x := by
    obtain ⟨x, operator, rfl⟩ := List.exists_cons_of_ne_nil hne
    exact ⟨x, hall x List.mem_cons_self, fun _ => rfl⟩
  obtain ⟨hblank, hident⟩ := not_blank_of_isOperatorChar hx
  have hnot (c : Char) (hc : isBlank c = true ∨ isIdent c = true) : isOperatorChar c = false := by
    by_contra hoperator
    obtain ⟨hblank, hident⟩ := not_blank_of_isOperatorChar (Bool.of_not_eq_false hoperator)
    simp [hblank, hident] at hc
  -- Behind each part something else begins, so each part is read as a whole.
  have hsource (s : List Char) : columnRef? (r.endpoints.source.dotted ++
      (gapBefore ++ (operator ++ s))) = some (r.endpoints.source, gapBefore ++ (operator ++ s)) := by
    refine columnRef?_append hsafe.sourceTable hsafe.sourceColumn ?_
    refine Scan.head?_blanks_append hgapBefore (fun c hc => isIdent_of_isBlank hc) ?_
    rw [hfront]
    exact hident
  have hoperator : operator? (operator ++ (gapBehind ++ (r.endpoints.target.dotted ++ s))) =
      some (r.cardinality, gapBehind ++ (r.endpoints.target.dotted ++ s)) := by
    refine operator?_of_forall hne hall hmeans ?_
    refine Scan.head?_blanks_append hgapBehind (fun c hc => hnot c (.inl hc)) ?_
    exact head?_dotted hsafe.targetTable (fun c hc => hnot c (.inr hc)) s
  have hskip (s : List Char) : Scan.skipBlanks (gapBefore ++ (operator ++ s)) = operator ++ s :=
    Scan.skipBlanks_append hgapBefore (by rw [hfront]; exact hblank)
  have hcolumn {c : ColumnRef} {gap : List Char} (hgap : ∀ c ∈ gap, isBlank c = true)
      (hc : IsIdentifier c.table.toList) (s : List Char) :
      Scan.skipBlanks (gap ++ (c.dotted ++ s)) = c.dotted ++ s :=
    Scan.skipBlanks_append hgap (head?_dotted hc (fun _ => isBlank_of_isIdent) s)
  unfold tail?
  simp only [List.cons_append, List.append_assoc, Option.bind_eq_bind, Option.bind_some,
    Scan.char?_self, hcolumn hgap hsafe.sourceTable, hsource, hskip, hoperator,
    hcolumn hgapBehind hsafe.targetTable,
    columnRef?_append hsafe.targetTable hsafe.targetColumn hs]
  rfl

/-- A text that completes a reference ends with an identifier, the name of the second column. -/
theorem Completes.getLast? {t : List Char} {r : Relationship} (h : Completes t r) :
    t.getLast?.any isIdent = true := by
  obtain ⟨-, hsafe⟩ := h
  have hlast := List.getLast_mem hsafe.targetColumn.1
  simp only [ColumnRef.dotted, ← List.append_assoc, ← List.cons_append]
  rw [List.getLast?_append, List.getLast?_eq_some_getLast hsafe.targetColumn.1]
  exact hsafe.targetColumn.2 _ hlast

/-- The reader of references takes the texts that complete one. -/
theorem recognizes_tail? : Scan.Recognizes tail? Completes where
  reads s r rest := by
    constructor
    · intro h
      have hsafe := textSafe_of_tail? h
      unfold tail? at h
      simp only [Option.bind_eq_bind, Option.bind_eq_some_iff] at h
      obtain ⟨colon, hcolon, ⟨source, before⟩, hsource, ⟨cardinality, behind⟩, hoperator,
        ⟨target, rest⟩, htarget, hr⟩ := h
      cases hr
      obtain ⟨gap, hgap, heq⟩ := Scan.exists_skipBlanks colon
      obtain ⟨gapBefore, hgapBefore, heqBefore⟩ := Scan.exists_skipBlanks before
      obtain ⟨gapBehind, hgapBehind, heqBehind⟩ := Scan.exists_skipBlanks behind
      obtain ⟨operator, hsplit, hne, hall, hmeans⟩ := exists_of_operator? hoperator
      rw [eq_append_of_columnRef? hsource] at heq
      rw [hsplit] at heqBefore
      rw [eq_append_of_columnRef? htarget] at heqBehind
      refine ⟨_, ?_, Completes.intro hgap hsafe hgapBefore hne hall hmeans hgapBehind,
        Breaks.of_stops (suffix_of_columnRef? htarget).2⟩
      rw [Scan.eq_cons_of_char? hcolon, heq, heqBefore, heqBehind]
      simp
    · rintro ⟨t, rfl, hcompletes, hends⟩
      exact tail?_of_completes hcompletes (hends hcompletes.getLast?)
  front t r h := by
    obtain ⟨⟩ := h
    exact ⟨':', _, rfl, rfl⟩

end Reference

/-- The relationships of a text are the leftmost references that stand in it. -/
theorem Schema.leftmost_relationships (text : String) :
    ∃ found,
      (∀ xs, Leftmost (Stands Reference.keyword Reference.Completes text.toList) 0 xs ↔
        xs = found) ∧
      (Schema.parse text).relationships = found.map (·.value) := by
  refine ⟨(Reference.findAll text.toList).map Occurrence.span, ?_, ?_⟩
  · exact Cursor.leftmost_iff Reference.isWord_keyword Reference.recognizes_tail? text.toList
  · unfold Schema.parse Schema.markForeignKeys
    rw [List.map_map]
    rfl

/-- A reference within an unfinished one is found, also if the names in it are the keyword. -/
example : (Schema.parse "Ref: a.b > Ref: ref.ref
<> ref.ref: c.d - e.f").relationships =
    [⟨⟨⟨"ref", "ref"⟩, ⟨"ref", "ref"⟩⟩, .manyToMany⟩] := by decide +kernel

end SchemaDiagram
