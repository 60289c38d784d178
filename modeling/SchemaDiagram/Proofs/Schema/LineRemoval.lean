import SchemaDiagram.Proofs.Schema.BlockRemoval
import SchemaDiagram.Proofs.Schema.BodyLine

/-!
# Taking the lines that refer to a table out of a text

A line that holds no piece of anything else can be taken out (`WholeLine.removable`). It may be a
line of the body of a block, and then the block goes on across it; but since a line that refers to a
table declares no column, the tables of the text do not change (`WholeLine.tables_eq`). A text that is
laid out for the removal of the table, and has no more blocks of it, is so without one of these lines
(`LaidOut.exists_without_line`), and hence without all of them (`LaidOut.withoutLines`).
-/

namespace SchemaDiagram

open Character Cursor SchemaText

variable {n : String} {p l s t : List Char}

/-! ## Lines that hold no piece of anything else -/

/-- A text keeps apart from an empty one. -/
theorem apart_nil {α : Type} {keyword : Keyword} {reader : List Char → Option α × List Char}
    (p : List Char) : Apart keyword reader p [] := by
  intro a w t _ _ _
  simp

/-- A column in a body is there with a line that refers to a table and without it. -/
theorem filterMap_lines_bodyLine {b c : List Char} (hb : b.getLast? = some '\n')
    (hl : IsLine l (c ++ '}' :: s)) (hrefers : RefersTo n.toList l) :
    (Text.lines (b ++ (l ++ c))).filterMap Column.ofLine? =
      (Text.lines (b ++ c)).filterMap Column.ofLine? := by
  have hlast : l.getLast? = some '\n' := hl.ended.resolve_right (by simp)
  have hsingle := hl.single
  obtain ⟨before, rfl⟩ := List.getLast?_eq_some_iff.1 hb
  obtain ⟨line, rfl⟩ := List.getLast?_eq_some_iff.1 hlast
  rw [List.dropLast_concat] at hsingle
  have hnone : Column.ofLine? line = none := by
    have htrim : Text.trim (line ++ ['\n']) = Text.trim line :=
      Text.trim_append_blanks (List.forall_mem_singleton.2 rfl)
    have hbroken := ofLine?_of_isReferenceTo (isReferenceTo_iff.2 hrefers)
    unfold Column.ofLine? at hbroken ⊢
    rwa [htrim] at hbroken
  simp only [List.append_assoc, List.singleton_append, Text.lines_append_break,
    Text.lines_of_not_mem hsingle, List.filterMap_append, List.filterMap_cons_none hnone]

/-- A body whose last line is still empty ends with a line break. -/
theorem getLast?_body {a b : List Char} {f : TableBlock.Front}
    (h : LineBehind (a ++ (f.text ++ b))) : b.getLast? = some '\n' := by
  cases b using List.reverseRecOn with
  | nil =>
    rw [LineBehind, List.append_nil, f.text_eq, ← List.append_assoc, List.getLast?_concat] at h
    cases h
  | append_singleton b d =>
    rw [LineBehind, ← List.append_assoc, ← List.append_assoc, List.getLast?_concat,
      Option.all_some, beq_iff_eq] at h
    rw [List.getLast?_concat, h]

/-- A line in the body of a block that refers to a table can be taken out without a change in the
tables. -/
theorem tables_bodyLine {a b c rest : List Char} {f : TableBlock.Front}
    (ha : a.getLast?.any isIdent = false) (hb : '}' ∉ b) (hc : '}' ∉ c)
    (hp : LineBehind (a ++ (f.text ++ b))) (hl : IsLine l (c ++ '}' :: rest)) (hbrace : '}' ∉ l)
    (hrefers : RefersTo n.toList l) :
    (Schema.declaredBy (a ++ (f.text ++ b) ++ (c ++ '}' :: rest))).tables =
      (Schema.declaredBy (a ++ (f.text ++ b) ++ (l ++ (c ++ '}' :: rest)))).tables := by
  have hbreak := getLast?_body hp
  let place : LinePlace := ⟨a, f, b, [], c, rest, ha, by simp, by simp, hb, hc, .inl hbreak⟩
  obtain ⟨earlier, name, m, later, -, hblocks⟩ :=
    place.oneBlock_of_before (a := []) (s := a) rfl Breaks.nil
  have hwith := hblocks l hbrace
  have hwithout := hblocks [] List.not_mem_nil
  have hcolumns : TableBlock.table ⟨name, m ++ (b ++ (l ++ c))⟩ =
      TableBlock.table ⟨name, m ++ (b ++ c)⟩ := by
    have hlast : (m ++ b).getLast? = some '\n' := by
      rw [List.getLast?_append, hbreak]
      rfl
    have hlines := filterMap_lines_bodyLine hlast hl hrefers
    rw [List.append_assoc, List.append_assoc] at hlines
    exact congrArg (Table.mk _) hlines
  have htext (l : List Char) : a ++ (f.text ++ b) ++ (l ++ (c ++ '}' :: rest)) =
      a ++ place.block l := by
    simp [place, LinePlace.block, LinePlace.body]
  have htext' := htext []
  rw [List.nil_append] at htext'
  unfold Schema.declaredBy
  rw [htext, htext', hwith, hwithout]
  simp [place, LinePlace.body, hcolumns]

namespace WholeLine

variable (h : WholeLine (p ++ (l ++ s)) p l) (hp : LineBehind p) (hl : IsLine l s)
include h hp hl

/-- The line can be taken out. -/
theorem removable : Removable p l s where
  settled := h.settled
  front := hp.front
  brace := by
    rintro ⟨a, b, f, rfl, ha, hb⟩ hmem
    obtain ⟨u, v, rfl, hu⟩ := List.eq_append_cons_of_mem hmem
    -- The block of that body would end on the line.
    have hbody : '}' ∉ b ++ u := by simp [hb, hu]
    have hstands := f.stands ha hbody (v ++ s)
    have htext : a ++ (f.text ++ (b ++ u ++ ['}']) ++ (v ++ s)) =
        a ++ (f.text ++ b) ++ (u ++ '}' :: v ++ s) := by simp
    rw [htext] at hstands
    obtain ⟨-, hstop⟩ := h.blocks _ hstands
    simp only [byteLength_append, byteLength] at hstop
    have hbrace : 0 < '}'.utf8Size := Char.utf8Size_pos _
    omega
  back := hl.ended.elim (fun hlast => .inr (.inr ⟨hlast, hp⟩)) .inl

/-- The reader of references keeps it apart. -/
theorem detached_reference : Detached Reference.keyword (Scan.orStay Reference.tail?) p l s := by
  refine ⟨h.settled.apart_reference hp.front _, ?_, h.settled.apart_reference hp.front _⟩
  rcases hl.ended with hlast | rfl
  · refine apart_of_stands Reference.recognizes_tail? (by rw [hlast]; rfl) fun y hy => ?_
    have hends := h.references _ (hy.behind hp.front)
    simp only [Span.shift, byteLength_append] at hends
    omega
  · exact apart_nil l

omit hl in
/-- No table block begins on it. -/
theorem le_start_of_block {y : Span TableBlock}
    (hy : Stands TableBlock.keyword TableBlock.Completes (l ++ s) y) : byteLength l ≤ y.start := by
  have hbegins := (h.blocks _ (hy.behind hp.front)).1
  simp only [Span.shift, byteLength_append] at hbegins
  omega

/-- The reader of table blocks keeps it apart, too, if it is in no body that ends behind it. -/
theorem detached_block (hopen : OpenBody p → '}' ∉ s) :
    Detached TableBlock.keyword (Scan.orStay TableBlock.tail?) p l s := by
  refine ⟨h.settled.apart_block hp.front fun ho => ?_, ?_, h.settled.apart_block hp.front hopen⟩
  · simp [(h.removable hp hl).brace ho, hopen ho]
  · rcases hl.ended with hlast | rfl
    · exact apart_of_stands TableBlock.recognizes_tail? (by rw [hlast]; rfl)
        fun y hy => .inr (h.le_start_of_block hp hy)
    · exact apart_nil l

/-- There is no table block on it. -/
theorem constructs_eq_nil : constructs TableBlock.keyword (Scan.orStay TableBlock.tail?) l = [] := by
  have hfound := TableBlock.leftmost_spans l
  refine List.map_eq_nil_iff.2 (List.eq_nil_iff_forall_not_mem.2 fun o ho => ?_)
  have hstands := hfound.stands_of_mem (List.mem_map_of_mem ho)
  have hpos := hstands.start_lt_stop
  have hle := hstands.stop_le
  have hbehind : Stands TableBlock.keyword TableBlock.Completes (l ++ s) o.span := by
    rcases hl.ended with hlast | rfl
    · exact hstands.extend (by rw [hlast]; rfl) s
    · rwa [List.append_nil]
  have hbegins := h.le_start_of_block hp hbehind
  omega

/-- A line that refers to a table can be taken out without a change in the tables. -/
theorem tables_eq (hrefers : RefersTo n.toList l) :
    (Schema.declaredBy (p ++ s)).tables = (Schema.declaredBy (p ++ (l ++ s))).tables := by
  by_cases hopen : OpenBody p ∧ '}' ∈ s
  · obtain ⟨hbody, hmem⟩ := hopen
    have hbrace := (h.removable hp hl).brace hbody
    obtain ⟨a, b, f, rfl, ha, hb⟩ := hbody
    obtain ⟨c, rest, rfl, hc⟩ := List.eq_append_cons_of_mem hmem
    exact tables_bodyLine ha hb hc hp hl hbrace hrefers
  · have hbehind : OpenBody p → '}' ∉ s := fun ho hmem => hopen ⟨ho, hmem⟩
    have hdetached := h.detached_block hp hl hbehind
    unfold Schema.declaredBy
    rw [hdetached.constructs TableBlock.isWord_keyword hp.front hl.breaks,
      hdetached.constructs_without TableBlock.isWord_keyword hp.front,
      h.constructs_eq_nil hp hl, List.nil_append]

end WholeLine

/-! ## The text without its lines -/

/-- A line of a text without another one is a line of the text. -/
theorem exists_keeps_line {a m c : List Char} (hp : LineBehind p) (hl : IsLine l s)
    (hsplit : p ++ s = a ++ (m ++ c)) (ha : LineBehind a) (hm : IsLine m c) :
    ∃ a' c', Keeps p l s m a c a' c' ∧ LineBehind a' ∧ IsLine m c' := by
  have hbehind {b : List Char} (hab : a = p ++ b) (hs : s = b ++ (m ++ c)) :
      ∃ a' c', Keeps p l s m a c a' c' ∧ LineBehind a' ∧ IsLine m c' := by
    rw [hab] at ha ⊢
    refine ⟨p ++ (l ++ b), c, .behind hs, ?_, hm⟩
    rw [lineBehind_append (by simp [hl.nonempty])]
    cases b with
    | nil =>
      rw [List.append_nil]
      exact hl.lineBehind (by simp [hs, hm.nonempty])
    | cons d b =>
      rw [lineBehind_append (List.cons_ne_nil d b)] at ha ⊢
      exact ha
  have hbefore {b : List Char} (hab : p = a ++ (m ++ b)) (hc : c = b ++ s)
      (hlast : m.getLast? = some '\n') : ∃ a' c', Keeps p l s m a c a' c' ∧ LineBehind a' ∧
        IsLine m c' := by
    rw [hc]
    exact ⟨a, b ++ (l ++ s), .before hab, ha, hm.nonempty, hm.single, .inl hlast⟩
  rcases List.append_eq_append_iff.1 hsplit with ⟨b, hab, hs⟩ | ⟨b, hab, hmc⟩
  · exact hbehind hab hs
  cases b using List.reverseRecOn with
  | nil => exact hbehind (b := []) (by simpa using hab.symm) (by simpa using hmc.symm)
  | append_singleton b d =>
    obtain rfl : d = '\n' := by simpa [hab, LineBehind, ← List.append_assoc] using hp
    rcases List.append_eq_append_iff.1 hmc with ⟨e, hb, hc⟩ | ⟨e, hme, hs⟩
    · refine hbefore (by rw [hab, hb]) hc ?_
      cases e with
      | nil =>
        rw [List.append_nil] at hb
        rw [← hb, List.getLast?_concat]
      | cons d e => exact hm.ended.resolve_right (by simp [hc])
    · cases e with
      | nil =>
        rw [List.append_nil] at hme
        exact hbefore (b := []) (by simp [hab, hme]) (by simpa using hs.symm)
          (by rw [hme, List.getLast?_concat])
      | cons d e =>
        refine absurd ?_ hm.single
        rw [hme, List.dropLast_append_of_ne_nil (List.cons_ne_nil d e)]
        simp

/-- There are no blocks of a table that is not declared. -/
theorem spansOf_eq_nil_iff :
    TableBlock.spansOf n t = [] ↔ ∀ x ∈ (Schema.declaredBy t).tables, x.name ≠ n := by
  have hname (b : TableBlock) : b.table.name = n ↔ b.name = n.toList := by
    show String.ofList b.name = n ↔ _
    rw [← String.toList_inj, String.toList_ofList]
  have htables : (Schema.declaredBy t).tables =
      ((TableBlock.findAll t).map Occurrence.span).map fun y => y.value.table := by
    rw [List.map_map]
    exact List.map_map
  rw [htables, TableBlock.spansOf, List.filter_eq_nil_iff, List.forall_mem_map]
  simp [hname]

/-- A text without blocks of the table that is laid out for its removal can do without a line that
refers to it. -/
theorem LaidOut.exists_without_line (h : LaidOut n t) (hnone : TableBlock.spansOf n t = [])
    (hl : l ∈ brokenLines t) (hrefers : RefersTo n.toList l) :
    ∃ u, LaidOut n u ∧ TableBlock.spansOf n u = [] ∧ u.length < t.length ∧
      dropReferences n.toList t = dropReferences n.toList u ∧ Leaves n t u := by
  obtain ⟨p, s, rfl, hp, hl⟩ := exists_of_mem_brokenLines hl
  have hbeside (i j : ℕ) : Beside (TableBlock.spansOf n (p ++ (l ++ s))) i j := by
    rw [hnone]
    exact fun y hy => absurd hy List.not_mem_nil
  have hwhole := h.lines p l s rfl hp hl hrefers (hbeside _ _)
  have htables := hwhole.tables_eq hp hl hrefers
  have hnone' : TableBlock.spansOf n (p ++ s) = [] := by
    rw [spansOf_eq_nil_iff] at hnone ⊢
    rwa [htables]
  refine ⟨p ++ s, ?_, hnone', ?_, dropReferences_line hp hl (isReferenceTo_iff.2 hrefers),
    .of_detached (hwhole.detached_reference hp hl) hp.front hl.breaks (by rw [htables])⟩
  · refine h.without (hwhole.removable hp hl) ?_ ?_ fun a m c hsplit ha hm _ =>
      exists_keeps_line hp hl hsplit ha hm
    · rw [hnone]
      exact fun y hy => absurd hy List.not_mem_nil
    · rw [hnone']
      exact fun y hy => absurd hy List.not_mem_nil
  · have hpos := List.length_pos_iff.2 hl.nonempty
    simp only [List.length_append]
    omega

/-- Without the lines that refer to the table such a text stays so, and has no other lines that do. -/
theorem LaidOut.withoutLines {t : List Char} (h : LaidOut n t)
    (hnone : TableBlock.spansOf n t = []) :
    LaidOut n (dropReferences n.toList t) ∧
      TableBlock.spansOf n (dropReferences n.toList t) = [] ∧
      (∀ l ∈ brokenLines (dropReferences n.toList t), ¬RefersTo n.toList l) ∧
      Leaves n t (dropReferences n.toList t) := by
  by_cases hlines : ∀ l ∈ brokenLines t, ¬RefersTo n.toList l
  · have hkeep : dropReferences n.toList t = t :=
      dropReferences_of_forall fun l hl =>
        Bool.eq_false_iff.2 fun hrefers => hlines l hl (isReferenceTo_iff.1 hrefers)
    rw [hkeep]
    exact ⟨h, hnone, hlines, rfl, List.Sublist.refl _⟩
  · simp only [not_forall, not_not] at hlines
    obtain ⟨l, hl, hrefers⟩ := hlines
    obtain ⟨u, hu, hnone', hlt, hdrop, hleaves⟩ := h.exists_without_line hnone hl hrefers
    obtain ⟨hlaid, hbare, hlines, hleaves'⟩ := hu.withoutLines hnone'
    rw [hdrop]
    exact ⟨hlaid, hbare, hlines, hleaves.trans hleaves'⟩
termination_by t.length

/-- A text that is laid out for the removal of a table, and has no blocks of it and no lines that
refer to it, has no references from or to it. -/
theorem LaidOut.not_touches (h : LaidOut n t) (hnone : TableBlock.spansOf n t = [])
    (hlines : ∀ l ∈ brokenLines t, ¬RefersTo n.toList l) :
    ∀ r ∈ (Schema.declaredBy t).relationships, ¬r.Touches n := by
  intro r hr htouches
  obtain ⟨o, ho, rfl⟩ := List.mem_map.1 hr
  have hfound := (leftmost_iff Reference.isWord_keyword Reference.recognizes_tail? t _).2 rfl
  have hbeside : Beside (TableBlock.spansOf n t) o.span.start o.span.stop := by
    rw [hnone]
    exact fun y hy => absurd hy List.not_mem_nil
  obtain ⟨p, l, s, rfl, hp, hl, hrefers⟩ :=
    h.exists_refersTo (hfound.stands_of_mem (List.mem_map_of_mem ho)) htouches hbeside
  exact hlines l (mem_brokenLines hp hl) hrefers

end SchemaDiagram
