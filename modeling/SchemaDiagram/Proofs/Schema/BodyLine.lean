import SchemaDiagram.Proofs.Schema.Block
import SchemaDiagram.Proofs.Schema.ForeignKey
import SchemaDiagram.Proofs.Schema.LineBreak
import SchemaDiagram.Proofs.Text.Alike

/-!
# A line in the body of a table

A `LinePlace` is a text with a place for a line in a table block. The line adds its column to one
of the tables of the text, and nothing else in them depends on it (`LinePlace.exists_tables`). So a
line that is exchanged for one that declares the same column leaves the tables as they are
(`LinePlace.schema_congr`). The text in front of the block need not be complete: if it leaves a
block open, then the line belongs to that block, in which it is a line as well.
-/

namespace SchemaDiagram

open Character

/-! ## Up to the body of a block -/

/-- Up to the first opening brace it is decided whether a block is read, and under which name. -/
theorem TableBlock.tail?_append_cons {k : List Char} (hk : '{' ∉ k) :
    (∀ s, tail? (k ++ '{' :: s) = none) ∨ ∃ name, ∀ s, tail? (k ++ '{' :: s) =
      (Scan.until? ['}'] s).map fun (body, rest) => (⟨name, body⟩, rest) := by
  have hskip {k : List Char} (s : List Char) :
      Scan.skipBlanks (k ++ '{' :: s) = Scan.skipBlanks k ++ '{' :: s :=
    (Scan.takeWhile_append_of_head? (f := isBlank) rfl k).2
  have hident (k s : List Char) := Scan.confined_ident? (s := '{' :: s) (stops_cons.2 rfl) k
  cases k with
  | nil => exact .inl fun s => rfl
  | cons c k =>
    cases hc : isBlank c with
    | false =>
      refine .inl fun s => ?_
      rw [tail?_eq, List.cons_append, Scan.blanks?_of_not hc]
      rfl
    | true =>
      have hname (s : List Char) : tail? (c :: k ++ '{' :: s) =
          fromName? (Scan.skipBlanks k ++ '{' :: s) := by
        rw [tail?_eq, List.cons_append, Scan.blanks?_cons hc, hskip]
        rfl
      simp only [hname]
      unfold fromName?
      simp only [hident, Option.bind_eq_bind, Option.bind_map]
      cases hread : Scan.ident? (Scan.skipBlanks k) with
      | none => exact .inl fun s => rfl
      | some found =>
        obtain ⟨name, behind⟩ := found
        simp only [Option.bind_some, Function.comp_apply, hskip]
        cases hbehind : Scan.skipBlanks behind with
        | nil =>
          refine .inr ⟨name, fun s => ?_⟩
          simp only [List.nil_append, Scan.char?_self, Option.bind_some]
          cases Scan.until? ['}'] s <;> rfl
        | cons d rest =>
          -- Behind the name there is something else in front of the brace.
          have hsuffix : d :: rest <:+ c :: k := calc
            d :: rest = Scan.skipBlanks behind := hbehind.symm
            List.IsSuffix _ behind := List.dropWhile_suffix isBlank
            List.IsSuffix _ (Scan.skipBlanks k) := (Scan.suffix_of_ident? hread).1
            List.IsSuffix _ k := List.dropWhile_suffix isBlank
            List.IsSuffix _ (c :: k) := List.suffix_cons c k
          have hd : d ≠ '{' := by
            rintro rfl
            exact hk (hsuffix.subset List.mem_cons_self)
          refine .inl fun s => ?_
          rw [List.cons_append, Scan.char?_of_ne (by simpa using hd)]
          rfl

/-- A text is not apart from another one with which a block that begins in it ends. -/
theorem TableBlock.not_apart {a w t x : List Char} {c : Char} {b : TableBlock}
    (hfront : a.getLast?.any isIdent = false) (hsame : Text.sameLetters w keyword.letters = true)
    (hread : tail? (t ++ (x ++ [c])) = some (b, [])) :
    ¬Apart keyword (Scan.orStay tail?) (a ++ (w ++ t)) (x ++ [c]) := by
  intro hapart
  have hstay := hapart a w t rfl hfront hsame
  rw [Scan.orStay, hread] at hstay
  have hnil := congrArg Prod.snd hstay
  simp at hnil

/-- An element that is not in the second of two parts stands in the first one. -/
theorem exists_of_append_eq_append_cons {α : Type} {s f q v : List α} {c : α} (hc : c ∉ f)
    (h : s ++ f = q ++ c :: v) : ∃ r, s = q ++ c :: r ∧ v = r ++ f := by
  rcases List.append_eq_append_iff.1 h with ⟨t, -, hf⟩ | ⟨t, rfl, ht⟩
  · exact absurd (by simp [hf]) hc
  · cases t with
    | nil =>
      rw [List.nil_append] at ht
      exact absurd (ht ▸ List.mem_cons_self) hc
    | cons d r =>
      obtain ⟨rfl, rfl⟩ := List.cons.inj ht
      exact ⟨r, rfl, rfl⟩

namespace TableBlock.Front

variable (f : Front)

/-- Behind a keyword in front of a block nothing is read, or a block that ends before, or one whose
body reaches up to the end of the block. -/
theorem tail?_append_text (s : List Char) :
    (∀ x, tail? (s ++ (f.text ++ x)) = none) ∨
      (∃ b u r, s = u ++ '}' :: r ∧
        ∀ x, tail? (s ++ (f.text ++ x)) = some (b, r ++ (f.text ++ x))) ∨
      ∃ name m, ∀ body x, '}' ∉ body →
        tail? (s ++ (f.text ++ (body ++ '}' :: x))) = some (⟨name, m ++ body⟩, x) := by
  -- The front of the block has an opening brace, if there is none before.
  obtain ⟨k, m, hkm, hk⟩ := List.eq_append_cons_of_mem (List.mem_append_right s f.brace_mem_text)
  have hread (x : List Char) : tail? (s ++ (f.text ++ x)) = tail? (k ++ '{' :: (m ++ x)) := by
    rw [← List.append_assoc, hkm, List.append_assoc, List.cons_append]
  rcases tail?_append_cons hk with hnone | ⟨name, hsome⟩
  · exact .inl fun x => by rw [hread, hnone]
  by_cases hm : '}' ∈ m
  · obtain ⟨u, v, rfl, hu⟩ := List.eq_append_cons_of_mem hm
    rw [← List.cons_append, ← List.append_assoc] at hkm
    obtain ⟨r, hs, hv⟩ := exists_of_append_eq_append_cons f.close_not_mem_text hkm
    refine .inr (.inl ⟨⟨name, u⟩, k ++ '{' :: u, r, hs, fun x => ?_⟩)
    rw [hread, hsome, hv, List.append_assoc, List.cons_append, Scan.until?_singleton hu,
      List.append_assoc]
    rfl
  · refine .inr (.inr ⟨name, m, fun body x hbody => ?_⟩)
    have hmb : '}' ∉ m ++ body := by simp [hm, hbody]
    rw [hread, hsome, ← List.append_assoc, Scan.until?_singleton hmb]
    rfl

end TableBlock.Front

/-! ## A line among others -/

/-- Blanks in front of a line do not count. -/
theorem Column.ofLine?_blanks_append {b : List Char} (hb : ∀ c ∈ b, isBlank c = true)
    (s : List Char) : ofLine? (b ++ s) = ofLine? s := by
  unfold ofLine?
  rw [Text.trim_blanks_append hb]

/-- What begins a line of a text makes a difference to the column of that line only. -/
theorem exists_filterMap_lines {u : List Char} (hu : u = [] ∨ u.getLast? = some '\n')
    (s : List Char) : ∃ above t below, ∀ l, '\n' ∉ l →
      (Text.lines (u ++ (l ++ s))).filterMap Column.ofLine? =
        above ++ ((Column.ofLine? (l ++ t)).toList ++ below) := by
  have hfirst : ∃ t others, Text.lines s = t :: others := by
    cases hs : Text.lines s with
    | nil => exact absurd hs (List.splitOnP_ne_nil _ _)
    | cons t others => exact ⟨t, others, rfl⟩
  obtain ⟨t, others, hs⟩ := hfirst
  have hline {l : List Char} (hl : '\n' ∉ l) : (Text.lines (l ++ s)).filterMap Column.ofLine? =
      (Column.ofLine? (l ++ t)).toList ++ others.filterMap Column.ofLine? := by
    rw [Text.lines_append hl, hs, List.modifyHead_cons, List.filterMap_cons]
    cases Column.ofLine? (l ++ t) <;> rfl
  rcases hu with rfl | hu
  · exact ⟨[], t, others.filterMap Column.ofLine?, fun l hl => hline hl⟩
  · obtain ⟨v, rfl⟩ := List.getLast?_eq_some_iff.1 hu
    refine ⟨(Text.lines v).filterMap Column.ofLine?, t, others.filterMap Column.ofLine?,
      fun l hl => ?_⟩
    rw [List.append_assoc, List.singleton_append, Text.lines_append_break, List.filterMap_append,
      hline hl]

/-- A place for a line in the body of a table block. -/
structure LinePlace where
  /-- The text in front of the block. -/
  before : List Char
  /-- The front of the block. -/
  front : TableBlock.Front
  /-- The lines of the body above. -/
  above : List Char
  /-- The blanks in front of the line. -/
  indent : List Char
  /-- What remains of the body. -/
  below : List Char
  /-- The text behind the block. -/
  behind : List Char
  begins : before.getLast?.any isIdent = false
  isBlank_indent : ∀ c ∈ indent, isBlank c = true
  break_not_mem_indent : '\n' ∉ indent
  brace_not_mem_above : '}' ∉ above
  brace_not_mem_below : '}' ∉ below
  /-- The line is on a line of its own. It can be behind the opening brace, too, but then nothing in
  front of the block may read on into it. -/
  alone : above.getLast? = some '\n' ∨ above = [] ∧
    Apart TableBlock.keyword (Scan.orStay TableBlock.tail?) before (front.text ++ ['}'])

namespace LinePlace

variable (p : LinePlace) {l l' : List Char}

/-- The body of the block with a line. -/
def body (l : List Char) : List Char :=
  p.above ++ (p.indent ++ (l ++ p.below))

/-- The text from the block on with a line. -/
def block (l : List Char) : List Char :=
  p.front.text ++ (p.body l ++ '}' :: p.behind)

/-- The text with a line. -/
def text (l : List Char) : List Char :=
  p.before ++ p.block l

/-- The schema of the text with a line. -/
def schema (l : List Char) : Schema :=
  Schema.parse (String.ofList (p.text l))

/-- There is no closing brace in a body if there is none in the line. -/
theorem brace_not_mem_body (hl : '}' ∉ l) : '}' ∉ p.body l := by
  have hindent : '}' ∉ p.indent := fun h => absurd (p.isBlank_indent _ h) (by decide)
  simp [body, p.brace_not_mem_above, hindent, hl, p.brace_not_mem_below]

/-- With the text `s` in front of the block, the line stands in the body of one block, which may have
begun earlier than its own, and the blocks before and behind do not depend on the line. -/
def OneBlock (s : List Char) : Prop :=
  ∃ earlier name m later, (m = [] ∨ p.above.getLast? = some '\n') ∧ ∀ l, '}' ∉ l →
    constructs TableBlock.keyword (Scan.orStay TableBlock.tail?) (s ++ p.block l) =
      earlier ++ ⟨name, m ++ p.body l⟩ :: later

variable {p}

/-- A text that adds only blocks in front of such a text is one itself. -/
theorem OneBlock.of_constructs {s s' : List Char} (h : p.OneBlock s) (blocks : List TableBlock)
    (hs : ∀ l, constructs TableBlock.keyword (Scan.orStay TableBlock.tail?) (s' ++ p.block l) =
      blocks ++ constructs TableBlock.keyword (Scan.orStay TableBlock.tail?) (s ++ p.block l)) :
    p.OneBlock s' := by
  obtain ⟨earlier, name, m, later, hm, hblocks⟩ := h
  refine ⟨blocks ++ earlier, name, m, later, hm, fun l hl => ?_⟩
  rw [hs, hblocks l hl, List.append_assoc]

variable (p)

/-- So it is with the text in front of the block at any place where no identifier is cut. -/
theorem oneBlock_of_before {a s : List Char} (hsplit : p.before = a ++ s) (hbreaks : Breaks a s) :
    p.OneBlock s := by
  have hword := TableBlock.isWord_keyword
  -- By induction on what is left in front of the block.
  induction s using suffix_induction generalizing a with
  | nil =>
    exact ⟨[], p.front.name, [], _, .inl rfl,
      fun l hl => p.front.constructs_text (p.brace_not_mem_body hl) p.behind⟩
  | cons c t hc ih =>
    have hbehind := ih t (List.suffix_refl t) (a := a ++ [c]) (by simpa using hsplit)
      (Breaks.of_last (by simpa using hc))
    exact hbehind.of_constructs [] fun l => constructs_cons hword hc
  | word w t hw ht ih =>
    have hbehind := ih t (List.suffix_refl t) (a := a ++ w) (by simpa using hsplit)
      (Breaks.of_stops ht)
    have hstops (l : List Char) : Stops (t ++ p.block l) := by
      have hinto : Breaks (a ++ (w ++ t)) (p.block l) := hsplit ▸ Breaks.of_last p.begins
      exact hinto.of_append.stops_append hw ht
    cases hsame : Text.sameLetters w TableBlock.keyword.letters with
    | false =>
      refine hbehind.of_constructs [] fun l => ?_
      rw [List.append_assoc, constructs_word hword hw.2 (hstops l) hsame]
      rfl
    | true =>
      have hself {l rest : List Char} {b : TableBlock}
          (hread : TableBlock.tail? (t ++ p.block l) = some (b, rest)) :=
        TableBlock.divides_tail?.constructs hword hsame (hstops l) hread
      rcases p.front.tail?_append_text t with hnone | ⟨b, u, r, rfl, hends⟩ | ⟨name, m, hreach⟩
      · refine hbehind.of_constructs [] fun l => ?_
        rw [List.append_assoc, constructs_orStay hword hw (hstops l) (hnone _)]
        rfl
      · have hrest := ih r ⟨u ++ ['}'], by simp⟩ (a := a ++ (w ++ (u ++ ['}'])))
          (by simpa using hsplit) (Breaks.of_last (by simp; rfl))
        refine hrest.of_constructs [b] fun l => ?_
        rw [List.append_assoc, hself (hends _)]
        rfl
      · refine ⟨[], name, m,
          constructs TableBlock.keyword (Scan.orStay TableBlock.tail?) p.behind, .inr ?_,
          fun l hl => ?_⟩
        · refine p.alone.resolve_right fun ⟨_, hapart⟩ => ?_
          have hread := hreach [] [] List.not_mem_nil
          exact TableBlock.not_apart (hbreaks.front hw) hsame hread (hsplit ▸ hapart)
        · rw [List.append_assoc, hself (hreach _ _ (p.brace_not_mem_body hl))]
          rfl

/-! ## The tables of the text -/

/-- The line makes a difference to one column of one table only. -/
theorem exists_tables : ∃ earlier name above t below later, ∀ l, (∀ c ∈ l, c ≠ '\n' ∧ c ≠ '}') →
    (Schema.declaredBy (p.text l)).tables =
      earlier ++ ⟨name, above ++ ((Column.ofLine? (l ++ t)).toList ++ below)⟩ :: later := by
  obtain ⟨earlier, name, m, later, hm, hblocks⟩ := p.oneBlock_of_before (a := []) rfl Breaks.nil
  have hbegins : m ++ p.above = [] ∨ (m ++ p.above).getLast? = some '\n' := by
    have hlast (hend : p.above.getLast? = some '\n') : (m ++ p.above).getLast? = some '\n' := by
      rw [List.getLast?_append, hend]
      rfl
    rcases hm with rfl | hm
    · exact p.alone.symm.imp And.left hlast
    · exact .inr (hlast hm)
  obtain ⟨above, t, below, hlines⟩ := exists_filterMap_lines hbegins p.below
  refine ⟨earlier.map TableBlock.table, String.ofList name, above, t, below,
    later.map TableBlock.table, fun l hl => ?_⟩
  have hbreak : '\n' ∉ p.indent ++ l := by
    simp only [List.mem_append, not_or]
    exact ⟨p.break_not_mem_indent, fun hmem => (hl _ hmem).1 rfl⟩
  have hcolumns := hlines (p.indent ++ l) hbreak
  rw [List.append_assoc p.indent l t, Column.ofLine?_blanks_append p.isBlank_indent] at hcolumns
  have htable : TableBlock.table ⟨name, m ++ p.body l⟩ =
      ⟨String.ofList name, above ++ ((Column.ofLine? (l ++ t)).toList ++ below)⟩ := by
    rw [← hcolumns]
    unfold TableBlock.table body
    simp only [List.append_assoc]
  unfold Schema.declaredBy text
  rw [hblocks l fun hmem => (hl _ hmem).2 rfl, List.map_append, List.map_cons, htable]

/-- The column of a line that declares one, whatever is behind it, is in a table of the text. -/
theorem exists_mem_schema (hl : ∀ c ∈ l, c ≠ '\n' ∧ c ≠ '}') {c : Column}
    (h : ∀ t, Column.ofLine? (l ++ t) = some c) :
    ∃ t ∈ (p.schema l).tables, c ∈ t.unflagged.columns := by
  obtain ⟨earlier, name, above, t, below, later, htables⟩ := p.exists_tables
  have hflag : ({ c with isForeignKey := false } : Column) = c := by
    rw [← Column.isForeignKey_of_ofLine? (h t)]
  let found : Table := ⟨name, above ++ ((Column.ofLine? (l ++ t)).toList ++ below)⟩
  have hmem : found.unflagged ∈ (p.schema l).tables.map Table.unflagged := by
    unfold schema
    rw [Schema.parse_eq, Schema.map_unflagged_markForeignKeys, String.toList_ofList, htables l hl]
    exact List.mem_map_of_mem (List.mem_append_right _ List.mem_cons_self)
  obtain ⟨t', ht', heq⟩ := List.mem_map.1 hmem
  refine ⟨t', ht', ?_⟩
  rw [heq]
  refine List.mem_map.2 ⟨c, ?_, hflag⟩
  simp [found, h]

/-- Two lines that end nothing and declare the same, whatever is behind them. -/
structure Interchangeable (l l' : List Char) : Prop where
  within : ∀ c ∈ l, c ≠ '\n' ∧ c ≠ '}'
  within' : ∀ c ∈ l', c ≠ '\n' ∧ c ≠ '}'
  same : ∀ t, Column.ofLine? (l ++ t) = Column.ofLine? (l' ++ t)

/-- Lines that can stand for each other leave the schema of the text as it is, but for the order of
the relationships, if the text has the same references with each of them. -/
theorem schema_congr (h : Interchangeable l l')
    (hreferences : (Schema.declaredBy (p.text l)).relationships.Perm
      (Schema.declaredBy (p.text l')).relationships) :
    (p.schema l).tables = (p.schema l').tables ∧
      (p.schema l).relationships.Perm (p.schema l').relationships := by
  obtain ⟨earlier, name, above, t, below, later, htables⟩ := p.exists_tables
  have hsame : (Schema.declaredBy (p.text l)).tables = (Schema.declaredBy (p.text l')).tables := by
    rw [htables l h.within, htables l' h.within', h.same]
  unfold schema
  rw [Schema.parse_eq, Schema.parse_eq, String.toList_ofList, String.toList_ofList]
  refine ⟨?_, hreferences⟩
  show (Schema.mk (Schema.declaredBy (p.text l)).tables _).markForeignKeys.tables = _
  rw [hsame]
  exact Schema.tables_markForeignKeys_of_perm hreferences

end LinePlace

end SchemaDiagram
