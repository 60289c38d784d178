import SchemaDiagram.Proofs.Schema.Layout
import SchemaDiagram.Proofs.Text.Cut

/-!
# Taking the blocks of a table out of a text

A block that is found is in no open body (`TableBlock.exists_of_mem_spans`): the search would have
found the block of that body, and would have gone on behind its end. So nothing is read from what is
before a block of the table into it, nor from it into what is behind, and if the text before is
settled then nothing new is read where the two join (`detached_block`). A text that is laid out for
the removal of the table is so without one of its blocks, and declares the same but for the table
(`LaidOut.exists_without_block`).
-/

namespace SchemaDiagram

open Character Cursor SchemaText

variable {n : String} {p x s t body : List Char}

/-! ## Braces -/

/-- What completes a table block has its closing brace at the end only. -/
theorem TableBlock.Completes.eq_nil {u : List Char} {b : TableBlock}
    (h : Completes (t ++ '}' :: u) b) : u = [] := by
  obtain ⟨f, body, -, hsplit, brace, -⟩ := h.exists_front (w := "table".toList) rfl
  have hfront : '}' ∉ f.behindWord ++ body := by
    have hword := f.close_not_mem_text
    simp only [Front.text, List.mem_append, not_or] at hword
    simp [hword.2, brace]
  cases u using List.reverseRecOn with
  | nil => rfl
  | append_singleton u c =>
    rw [← List.cons_append, ← List.append_assoc, ← List.append_assoc] at hsplit
    obtain ⟨hbefore, -⟩ := List.append_inj' hsplit rfl
    exact absurd (hbefore ▸ by simp) hfront

/-- What completes a reference has no brace. -/
theorem Reference.Completes.brace_not_mem {r : Relationship} (h : Completes t r) : '}' ∉ t := by
  obtain ⟨hgap, hsafe, hgapBefore, -, hoperator, -, hgapBehind⟩ := h
  rename_i gap gapBefore operator gapBehind
  have hblank {b : List Char} (hb : ∀ c ∈ b, isBlank c = true) : '}' ∉ b :=
    fun hmem => absurd (hb _ hmem) (by decide)
  have hoperator' : '}' ∉ operator := fun hmem => absurd (hoperator _ hmem) (by decide)
  have hname {w : List Char} (hw : IsIdentifier w) : '}' ∉ w := hw.not_mem (by decide)
  simp [ColumnRef.dotted, hblank hgap, hblank hgapBefore, hblank hgapBehind, hoperator',
    hname hsafe.sourceTable, hname hsafe.sourceColumn, hname hsafe.targetTable,
    hname hsafe.targetColumn]

/-- Nothing stands across a closing brace at the end of a text. -/
theorem apart_of_brace (hx : x.getLast? = some '}') (s : List Char) :
    Apart TableBlock.keyword (Scan.orStay TableBlock.tail?) x s ∧
      Apart Reference.keyword (Scan.orStay Reference.tail?) x s := by
  have hlast : x.getLast?.any isIdent = false := by
    rw [hx]
    rfl
  -- The brace would be in what completes the block or the reference, but not at its end.
  have hbrace {keyword : Keyword} (hword : IsWord keyword.letters) {w t : List Char} {a : List Char}
      (hsplit : x = a ++ (w ++ t)) (hsame : Text.sameLetters w keyword.letters = true) :
      ∃ t', t = t' ++ ['}'] := by
    cases t using List.reverseRecOn with
    | nil =>
      have hw := hword.isIdentifier hsame
      rw [hsplit, List.append_nil, List.getLast?_append_of_ne_nil _ hw.1,
        List.getLast?_eq_some_getLast hw.1] at hlast
      rw [Option.any_some, hw.2 _ (List.getLast_mem hw.1)] at hlast
      cases hlast
    | append_singleton t c =>
      rw [hsplit, ← List.append_assoc, ← List.append_assoc, List.getLast?_concat] at hx
      exact ⟨t, by rw [Option.some.inj hx]⟩
  constructor
  · refine apart_of_stands TableBlock.recognizes_tail? hlast fun y hy => ?_
    by_contra hnot
    obtain ⟨hstop, hstart⟩ := not_or.1 hnot
    obtain ⟨a, w, t, u, rest, hsplit, -, hu, -, -, -, hsame, hform, -⟩ := hy.exists_across
      TableBlock.isWord_keyword hlast (Nat.lt_of_not_le hstart) (Nat.lt_of_not_le hstop)
    obtain ⟨t, rfl⟩ := hbrace TableBlock.isWord_keyword hsplit hsame
    rw [List.append_assoc, List.singleton_append] at hform
    exact hu hform.eq_nil
  · refine apart_of_stands Reference.recognizes_tail? hlast fun y hy => ?_
    by_contra hnot
    obtain ⟨hstop, hstart⟩ := not_or.1 hnot
    obtain ⟨a, w, t, u, rest, hsplit, -, -, -, -, -, hsame, hform, -⟩ := hy.exists_across
      Reference.isWord_keyword hlast (Nat.lt_of_not_le hstart) (Nat.lt_of_not_le hstop)
    obtain ⟨t, rfl⟩ := hbrace Reference.isWord_keyword hsplit hsame
    exact absurd (by simp) hform.brace_not_mem

/-! ## Blocks that are found -/

namespace TableBlock

/-- Where a table block stands, its front, its body and a brace divide the text. -/
theorem exists_front_of_stands {y : Span TableBlock} (h : Stands keyword Completes t y) :
    ∃ p body s, ∃ f : Front, y.Divides t p (f.text ++ (body ++ ['}'])) s ∧
      p.getLast?.any isIdent = false ∧ '}' ∉ body ∧ y.value = ⟨f.name, body⟩ := by
  obtain ⟨p, w, u, s, hdivides, hp, hsame, hform⟩ := h.exists_divides
  obtain ⟨f, body, rfl, rfl, brace, hvalue⟩ := hform.exists_front hsame
  rw [← List.append_assoc, ← Front.text] at hdivides
  exact ⟨p, body, s, f, hdivides, hp, brace, hvalue⟩

/-- Blocks that are found do not overlap. -/
theorem disjoint_of_mem_spans {y z : Span TableBlock} (hy : y ∈ (findAll t).map Occurrence.span)
    (hz : z ∈ (findAll t).map Occurrence.span) (hne : y ≠ z) :
    y.stop ≤ z.start ∨ z.stop ≤ y.start := by
  have hsymm : Std.Symm fun y z : Span TableBlock => y.stop ≤ z.start ∨ z.stop ≤ y.start :=
    ⟨fun _ _ => Or.symm⟩
  have hdisjoint : ((findAll t).map Occurrence.span).Pairwise
      fun y z => y.stop ≤ z.start ∨ z.stop ≤ y.start :=
    List.pairwise_map.2 ((cuttable_of_sublist (List.Sublist.refl (findAll t))).disjoint.imp .inl)
  exact hdisjoint.forall hy hz hne

/-- A block that ends in a part of the text has its closing brace there. -/
theorem close_mem_of_stands {a b : List Char} {z : Span TableBlock}
    (hz : Stands keyword Completes (a ++ (b ++ s)) z) (hfirst : byteLength a < z.stop)
    (hlast : z.stop ≤ byteLength (a ++ b)) : '}' ∈ b := by
  obtain ⟨q, body, r, f, ⟨htext, -, hstop⟩, -⟩ := exists_front_of_stands hz
  rw [← List.append_assoc] at htext
  obtain ⟨c, hc⟩ : q ++ (f.text ++ (body ++ ['}'])) <+: a ++ b := by
    refine prefix_of_byteLength_le (s := r) (t := s) ?_ (hstop.trans_le hlast)
    rw [List.append_assoc, ← htext, List.append_assoc]
  obtain ⟨e, he⟩ : a <+: q ++ (f.text ++ (body ++ ['}'])) :=
    prefix_of_byteLength_le hc.symm (hfirst.le.trans_eq hstop.symm)
  have hbrace : '}' ∈ e := by
    have hend : (a ++ e).getLast? = some '}' := by
      rw [he, ← List.append_assoc, ← List.append_assoc, List.getLast?_concat]
    cases e with
    | nil =>
      rw [← hstop, ← he, List.append_nil] at hfirst
      exact absurd hfirst (Nat.lt_irrefl _)
    | cons d e =>
      rw [List.getLast?_append_of_ne_nil _ (List.cons_ne_nil d e)] at hend
      exact List.mem_of_getLast? hend
  rw [← he, List.append_assoc, List.append_cancel_left_eq] at hc
  exact hc ▸ List.mem_append_left c hbrace

/-- A block that is found stands in the text, and not in the body of another one. -/
theorem exists_of_mem_spans {y : Span TableBlock} (hy : y ∈ (findAll t).map Occurrence.span) :
    ∃ p body s, ∃ f : Front, y.Divides t p (f.text ++ (body ++ ['}'])) s ∧
      p.getLast?.any isIdent = false ∧ '}' ∉ body ∧ y.value = ⟨f.name, body⟩ ∧ ¬OpenBody p := by
  have hfound := leftmost_spans t
  obtain ⟨p, body, s, f, hdivides, hp, hbody, hvalue⟩ :=
    exists_front_of_stands (hfound.stands_of_mem hy)
  refine ⟨p, body, s, f, hdivides, hp, hbody, hvalue, ?_⟩
  rintro ⟨a, b, g, rfl, ha, hb⟩
  -- The block of that body stands in the text, so one that is found reaches over its beginning.
  have hbody' : '}' ∉ b ++ (f.text ++ body) := by simp [hb, f.close_not_mem_text, hbody]
  have hstands := g.stands ha hbody' s
  have htext : t = a ++ (g.text ++ (b ++ (f.text ++ body) ++ ['}']) ++ s) := by
    rw [hdivides.text]
    simp
  rw [← htext] at hstands
  obtain ⟨z, hz, hfirst, hlast⟩ := hfound.exists_mem hstands (Nat.zero_le _)
  have hpos := hstands.start_lt_stop
  have hstart := hdivides.start
  have hne := byteLength_pos (List.ne_nil_of_mem g.brace_mem_text)
  simp only [byteLength_append] at hstart
  -- It ends before the other one, and so with a brace in the front or in the body.
  have hbefore : z.stop ≤ y.start := by
    have hzy : z ≠ y := by
      rintro rfl
      simp only at hfirst
      omega
    have hlt := (hfound.stands_of_mem hy).start_lt_stop
    rcases disjoint_of_mem_spans hz hy hzy with hle | hle
    · exact hle
    · simp only at hfirst
      omega
  have hsplit : t = a ++ ((g.text ++ b) ++ (f.text ++ (body ++ ['}']) ++ s)) := by
    rw [hdivides.text, List.append_assoc]
  have hmem : '}' ∈ g.text ++ b :=
    close_mem_of_stands (hsplit ▸ hfound.stands_of_mem hz) hlast
      (hbefore.trans_eq hdivides.start.symm)
  exact (List.mem_append.1 hmem).elim g.close_not_mem_text hb

namespace Front

/-- In the text of a block that block is all that is found. -/
theorem findAll_text (f : Front) (hbody : '}' ∉ body) :
    findAll (f.text ++ (body ++ ['}'])) =
      [⟨start (f.text ++ (body ++ ['}'])), (start (f.text ++ (body ++ ['}']))).toEnd,
        ⟨f.name, body⟩⟩] := by
  have hlen := length_eq_of_sameLetters f.isKeyword
  have hsplit : f.text ++ (body ++ ['}']) = f.word ++ (f.behindWord ++ (body ++ ['}'])) :=
    List.append_assoc _ _ _
  have hread := f.tail?_behindWord hbody []
  rw [hsplit]
  generalize htext : f.word ++ (f.behindWord ++ (body ++ ['}'])) = text
  have hindex : keywordIndex? keyword.letters none text = some 0 := by
    rw [← htext]
    exact keywordIndex?_self isWord_keyword f.isKeyword (f.stops_behindWord _)
  have hbehind : Scan.orStay tail?
      ((start text).advance (0 + keyword.letters.length)).ahead = (some ⟨f.name, body⟩, []) := by
    have hahead : ((start text).advance (0 + keyword.letters.length)).ahead =
        f.behindWord ++ (body ++ ['}']) := by
      rw [← htext, Nat.zero_add, ← hlen]
      exact List.drop_left
    unfold Scan.orStay
    rw [hahead, hread]
  have hend (c : Cursor) : c.moveTo [] = c.toEnd := rfl
  have hnone : (start text).toEnd.occurrences keyword (Scan.orStay tail?) = [] := by
    rw [occurrences_eq]
    simp [toEnd, advance, keywordIndex?]
  have hstart : keywordIndex? keyword.letters (start text).passed.head? (start text).ahead =
      some 0 := hindex
  unfold findAll
  rw [occurrences_eq]
  simp only [hstart, hbehind, hend, toEnd_advance, hnone]
  rfl

/-- A block of the table is cut as a whole. -/
theorem cutBlocks_text (f : Front) (hbody : '}' ∉ body) :
    cutBlocks f.name (f.text ++ (body ++ ['}'])) = [] := by
  unfold cutBlocks
  rw [f.findAll_text hbody]
  simp [Occurrence.cutFrom, start, toEnd, advance]

end Front

end TableBlock

/-! ## Blocks of the table -/

/-- No table block stands across the end of a settled text if what comes behind does not end an open
body. -/
theorem Settled.apart_block (h : Settled p) (hp : p.getLast?.any isIdent = false)
    (hopen : OpenBody p → '}' ∉ s) : Apart TableBlock.keyword (Scan.orStay TableBlock.tail?) p s := by
  refine apart_of_stands TableBlock.recognizes_tail? hp fun y hy => ?_
  by_contra hnot
  obtain ⟨hstop, hstart⟩ := not_or.1 hnot
  obtain ⟨a, b, c, rest, f, hsplit, rfl, ha, hb, -⟩ :=
    h.exists_openBody hp hy (Nat.lt_of_not_le hstart) (Nat.lt_of_not_le hstop)
  exact hopen ⟨a, b, f, hsplit, ha, hb⟩ (by simp)

/-- Nor does a reference. -/
theorem Settled.apart_reference (h : Settled p) (hp : p.getLast?.any isIdent = false)
    (s : List Char) : Apart Reference.keyword (Scan.orStay Reference.tail?) p s :=
  apart_of_stands Reference.recognizes_tail? hp fun _ hy => h.reference_beside hp hy

namespace TableBlock

/-- A block that is found behind a settled text stands for itself. -/
theorem detached_block (h : Settled p) (hp : p.getLast?.any isIdent = false) (hopen : ¬OpenBody p)
    (hx : x.getLast? = some '}') (s : List Char) :
    Detached keyword (Scan.orStay tail?) p x s ∧
      Detached Reference.keyword (Scan.orStay Reference.tail?) p x s := by
  obtain ⟨hblock, hreference⟩ := apart_of_brace hx s
  exact ⟨⟨h.apart_block hp fun ho => absurd ho hopen, hblock,
      h.apart_block hp fun ho => absurd ho hopen⟩,
    ⟨h.apart_reference hp _, hreference, h.apart_reference hp _⟩⟩

/-- The blocks of the table in a text of two parts that are apart. -/
theorem spansOf_append (hapart : Apart keyword (Scan.orStay tail?) p s) (hb : Breaks p s) :
    spansOf n (p ++ s) = spansOf n p ++ (spansOf n s).map (·.shift (byteLength p)) := by
  have hfilter (ys : List (Span TableBlock)) :
      (ys.map (·.shift (byteLength p))).filter (·.value.name = n.toList) =
        (ys.filter (·.value.name = n.toList)).map (·.shift (byteLength p)) := List.filter_map
  unfold spansOf findAll
  rw [map_span_occurrences_append isWord_keyword hapart hb, List.filter_append, hfilter]

end TableBlock

namespace TableBlock

/-- A block of the table that is found in a text stands there. -/
theorem stands_of_mem_spansOf {y : Span TableBlock} (hy : y ∈ spansOf n t) :
    Stands keyword Completes t y := by
  obtain ⟨ys, hys, hmem, -⟩ := mem_spansOf_iff.1 hy
  exact hys.stands_of_mem hmem

/-- The blocks of the table are one that stands for itself and those without it, where these
move. -/
theorem exists_moves_iff (h : Detached keyword (Scan.orStay tail?) p x s)
    (hp : p.getLast?.any isIdent = false) (hx : Breaks x s)
    (hself : ∀ z ∈ spansOf n x, z.start = 0 ∧ z.stop = byteLength x) :
    (∀ z ∈ spansOf n (p ++ (x ++ s)),
      z.start = byteLength p ∧ z.stop = byteLength p + byteLength x ∨
        ∃ y ∈ spansOf n (p ++ s), Moves (byteLength p) (byteLength x) y z) ∧
      ∀ y ∈ spansOf n (p ++ s), (y.stop ≤ byteLength p ∨ byteLength p ≤ y.start) ∧
        ∃ z ∈ spansOf n (p ++ (x ++ s)), Moves (byteLength p) (byteLength x) y z := by
  have hwith := spansOf_append (n := n) h.before (Breaks.of_last hp)
  have hwithout := spansOf_append (n := n) h.without (Breaks.of_last hp)
  rw [spansOf_append h.behind hx, List.map_append] at hwith
  have hfirst {z : Span TableBlock} (hz : z ∈ spansOf n p) :
      z.stop ≤ byteLength p ∧ Moves (byteLength p) (byteLength x) z z := by
    have hlt := (stands_of_mem_spansOf hz).start_lt_stop
    have hle := (stands_of_mem_spansOf hz).stop_le
    exact ⟨hle, .inl ⟨by omega, rfl⟩, .inl ⟨hle, rfl⟩⟩
  have hlast {z : Span TableBlock} (hz : z ∈ spansOf n s) :
      Moves (byteLength p) (byteLength x) (z.shift (byteLength p))
        ((z.shift (byteLength x)).shift (byteLength p)) := by
    have hlt := (stands_of_mem_spansOf hz).start_lt_stop
    constructor
    · simp only [Span.shift]
      omega
    · simp only [Span.shift]
      omega
  rw [hwith, hwithout]
  constructor
  · intro z hz
    rw [List.mem_append, List.mem_append] at hz
    rcases hz with hz | hz | hz
    · exact .inr ⟨z, List.mem_append_left _ hz, (hfirst hz).2⟩
    · obtain ⟨z', hz', rfl⟩ := List.mem_map.1 hz
      obtain ⟨hstart, hstop⟩ := hself z' hz'
      left
      simp only [Span.shift]
      omega
    · rw [List.map_map, List.mem_map] at hz
      obtain ⟨z', hz', rfl⟩ := hz
      exact .inr ⟨_, List.mem_append_right _ (List.mem_map_of_mem hz'), hlast hz'⟩
  · intro y hy
    rcases List.mem_append.1 hy with hy | hy
    · exact ⟨.inl (hfirst hy).1, y, List.mem_append_left _ hy, (hfirst hy).2⟩
    · obtain ⟨y', hy', rfl⟩ := List.mem_map.1 hy
      refine ⟨.inr (Nat.le_add_left _ _), _, ?_, hlast hy'⟩
      exact List.mem_append_right _ (List.mem_append_right _
        (List.mem_map_of_mem (List.mem_map_of_mem hy')))

end TableBlock

/-! ## The line that is joined -/

/-- With a part between them, two texts that begin a line with `ref` do so without it: the letters
come in the second one, or in the first one. -/
theorem nextReference_append {r : List Char} (hr : r.getLast?.any isIdent = false)
    (h : NextReference (r ++ s)) (t : List Char) : NextReference s ∨ NextReference (r ++ t) := by
  obtain ⟨gap, w, v, hsplit, hgap, hsame⟩ := h
  rcases List.append_eq_append_iff.1 hsplit with ⟨c, rfl, rfl⟩ | ⟨c, rfl, hwv⟩
  · exact .inl ⟨c, w, v, rfl, fun d hd => hgap d (List.mem_append_right _ hd), hsame⟩
  rcases List.append_eq_append_iff.1 hwv with ⟨d, rfl, rfl⟩ | ⟨d, rfl, rfl⟩
  · exact .inr ⟨gap, w, d ++ t, by simp, hgap, hsame⟩
  · cases c using List.reverseRecOn with
    | nil => exact .inl ⟨[], d, v, rfl, by simp [IsIndent], hsame⟩
    | append_singleton c x =>
      have hx := Scan.isIdent_of_sameLetters Reference.isWord_keyword.2 hsame x (by simp)
      rw [← List.append_assoc, List.getLast?_concat, Option.any_some, hx] at hr
      cases hr

section joined

variable (hr : Removable p x s) (hbegins : ¬BeginsReference p) (hnext : ¬NextReference s)
include hr hbegins hnext

/-- A line that begins with `ref` when a part is taken out of a text, none of whose lines there does,
is one that the text had before. -/
theorem Removable.exists_keeps {a l c : List Char} (hsplit : p ++ s = a ++ (l ++ c))
    (ha : LineBehind a) (hl : IsLine l c) (hrefers : RefersTo n.toList l) :
    ∃ a' c', Keeps p x s l a c a' c' ∧ LineBehind a' ∧ IsLine l c' := by
  obtain ⟨hgap, hsame, -, -, -⟩ := hrefers
  rename_i gap w gapBehind u v
  generalize hv : gapBehind ++ ':' :: (u ++ (n.toList ++ v)) = v at *
  have hne : v ≠ [] := by simp [← hv]
  have hsingle := hl.single
  rw [List.dropLast_append_of_ne_nil (by simp [hne]), List.dropLast_append_of_ne_nil hne] at hsingle
  simp only [List.mem_append, not_or] at hsingle
  have hindent : IsIndent gap :=
    fun c hc => ⟨hgap c hc, fun heq => hsingle.1 (heq ▸ hc)⟩
  rcases joined_cases hr.front hbegins hnext hsplit ha rfl hindent hsame hsingle.2.2 hl.ended with
    ⟨b, hp, hlast⟩ | ⟨b, hb, rfl⟩
  · have hc : c = b ++ s := by
      rw [hp] at hsplit
      simpa using hsplit.symm
    rw [hc]
    exact ⟨a, b ++ (x ++ s), .before hp, ha, hl.nonempty, hl.single, .inl hlast⟩
  · rw [List.append_assoc, List.append_cancel_left_eq] at hsplit
    refine ⟨p ++ (x ++ b), c, .behind hsplit, ?_, hl⟩
    rw [← List.append_assoc, lineBehind_append hb]
    exact (lineBehind_append hb).1 ha

/-- What a text is like around the blocks of the table it is like without one of them. -/
theorem LaidOut.blocks_without (h : LaidOut n (p ++ (x ++ s)))
    (hplaces : ∀ y ∈ TableBlock.spansOf n (p ++ s),
      (y.stop ≤ byteLength p ∨ byteLength p ≤ y.start) ∧
        ∃ z ∈ TableBlock.spansOf n (p ++ (x ++ s)), Moves (byteLength p) (byteLength x) y z)
    {y : Span TableBlock} (hy : y ∈ TableBlock.spansOf n (p ++ s)) {a b c : List Char}
    (hdivides : y.Divides (p ++ s) a b c) :
    Settled a ∧ ¬BeginsReference a ∧ ¬NextReference c := by
  obtain ⟨hside, z, hz, hmoves⟩ := hplaces y hy
  have hpos := (TableBlock.stands_of_mem_spansOf hy).start_lt_stop
  obtain ⟨a', c', hkeeps, hz'⟩ := hdivides.exists_keeps hmoves hside hpos
  obtain ⟨hsettled, hbegins', hnext'⟩ := h.blocks z hz _ _ _ hz'
  cases hkeeps with
  | @before a r hp =>
    have hlast : r.getLast?.any isIdent = false := by
      cases r with
      | nil => rfl
      | cons d r =>
        rw [← List.getLast?_append_of_ne_nil (a ++ b) (List.cons_ne_nil d r), List.append_assoc, ← hp]
        exact hr.front
    exact ⟨hsettled, hbegins', fun h => (nextReference_append hlast h (x ++ s)).elim hnext hnext'⟩
  | @behind r c hs =>
    have hb : b ≠ [] := by
      rintro rfl
      rw [← hdivides.start, ← hdivides.stop, List.append_nil] at hpos
      exact absurd hpos (Nat.lt_irrefl _)
    refine ⟨hr.settled_append (by simp [hs, hb]) hsettled, ?_, hnext'⟩
    rintro ⟨a, gap, w, v, hsplit, ha, hgap, hsame, hv⟩
    have hnext'' : ¬NextReference r := by
      rintro ⟨gap, w, v, rfl, hgap, hsame⟩
      exact hnext ⟨gap, w, v ++ (b ++ c), by simp [hs], hgap, hsame⟩
    have hv' : '\n' ∉ v.dropLast := fun hmem => hv (List.dropLast_subset _ hmem)
    rcases joined_cases (m := []) hr.front hbegins hnext'' (by simpa using hsplit) ha rfl hgap hsame
      hv' (.inr rfl) with ⟨d, -, hlast⟩ | ⟨d, hd, rfl⟩
    · -- The line has no break.
      have hmem := List.mem_of_getLast? hlast
      have hw := (Reference.isWord_keyword.isIdentifier hsame).not_mem (m := '\n') (by decide)
      simp only [List.mem_append, hv, hw, or_false] at hmem
      exact (hgap _ hmem).2 rfl
    · rw [List.append_assoc, List.append_cancel_left_eq] at hsplit
      refine hbegins' ⟨p ++ (x ++ d), gap, w, v, by simp [hsplit], ?_, hgap, hsame, hv⟩
      rw [← List.append_assoc, lineBehind_append hd]
      exact (lineBehind_append hd).1 ha

end joined

/-! ## The text without its blocks -/

/-- The text `u` declares what the text `t` does, but for a table and some relationships. -/
structure Leaves (n : String) (t u : List Char) : Prop where
  /-- The other tables remain. -/
  tables : (Schema.declaredBy u).tables.filter (·.name ≠ n) =
    (Schema.declaredBy t).tables.filter (·.name ≠ n)
  /-- No relationship comes to be. -/
  relationships : (Schema.declaredBy u).relationships.Sublist (Schema.declaredBy t).relationships

/-- What leaves the other tables once and again does so at once. -/
theorem Leaves.trans {u v : List Char} (h : Leaves n t u) (h' : Leaves n u v) : Leaves n t v :=
  ⟨h'.tables.trans h.tables, h'.relationships.trans h.relationships⟩

/-- No relationship comes to be when a part is taken out that stands for itself. -/
theorem Leaves.of_detached
    (h : Detached Reference.keyword (Scan.orStay Reference.tail?) p x s)
    (hp : p.getLast?.any isIdent = false) (hx : Breaks x s)
    (htables : (Schema.declaredBy (p ++ s)).tables.filter (·.name ≠ n) =
      (Schema.declaredBy (p ++ (x ++ s))).tables.filter (·.name ≠ n)) :
    Leaves n (p ++ (x ++ s)) (p ++ s) where
  tables := htables
  relationships := by
    show (constructs Reference.keyword (Scan.orStay Reference.tail?) _).Sublist
      (constructs Reference.keyword (Scan.orStay Reference.tail?) _)
    rw [h.constructs_without Reference.isWord_keyword hp, h.constructs Reference.isWord_keyword hp hx]
    exact (List.sublist_append_right _ _).append_left _

namespace TableBlock.Front

variable (f : Front) (hname : f.name = n.toList) (hbody : '}' ∉ body)
  (hdetached : Detached keyword (Scan.orStay tail?) p (f.text ++ (body ++ ['}'])) s)
  (hp : p.getLast?.any isIdent = false) (hx : Breaks (f.text ++ (body ++ ['}'])) s)
include hname hbody hdetached hp hx

/-- It makes no difference to what is left without the blocks of a table whether one of them was
there. -/
theorem cutBlocks_append : cutBlocks n.toList (p ++ (f.text ++ (body ++ ['}']) ++ s)) =
    cutBlocks n.toList (p ++ s) := by
  have hself := f.cutBlocks_text hbody
  rw [hname] at hself
  let chosen (b : TableBlock) : Bool := b.name = n.toList
  have hwith := cut_append chosen isWord_keyword hdetached.before (Breaks.of_last hp)
  have hbehind := cut_append chosen isWord_keyword hdetached.behind hx
  have hwithout := cut_append chosen isWord_keyword hdetached.without (Breaks.of_last hp)
  calc cutBlocks n.toList (p ++ (f.text ++ (body ++ ['}']) ++ s))
    _ = cutBlocks n.toList p ++ cutBlocks n.toList (f.text ++ (body ++ ['}']) ++ s) := hwith
    _ = cutBlocks n.toList p ++ (cutBlocks n.toList (f.text ++ (body ++ ['}'])) ++
          cutBlocks n.toList s) := congrArg (cutBlocks n.toList p ++ ·) hbehind
    _ = cutBlocks n.toList p ++ cutBlocks n.toList s := by rw [hself, List.nil_append]
    _ = cutBlocks n.toList (p ++ s) := hwithout.symm

/-- Nor to the other tables that are declared. -/
theorem filter_tables_append :
    (Schema.declaredBy (p ++ s)).tables.filter (·.name ≠ n) =
      (Schema.declaredBy (p ++ (f.text ++ (body ++ ['}']) ++ s))).tables.filter (·.name ≠ n) := by
  have hblock : constructs keyword (Scan.orStay tail?) (f.text ++ (body ++ ['}'])) =
      [⟨f.name, body⟩] := by
    rw [f.constructs_text hbody, constructs_nil]
  have hgone : (TableBlock.table ⟨f.name, body⟩).name = n := by
    show String.ofList f.name = n
    rw [hname, String.ofList_toList]
  unfold Schema.declaredBy
  rw [hdetached.constructs isWord_keyword hp hx, hdetached.constructs_without isWord_keyword hp,
    hblock, List.map_append, List.map_append, List.map_append, List.map_singleton,
    List.filter_append, List.singleton_append, List.filter_append,
    List.filter_cons_of_neg (by simp [hgone])]

end TableBlock.Front

/-- A text that has a block of the table can do without it. -/
theorem LaidOut.exists_without_block (h : LaidOut n t) (hblock : TableBlock.spansOf n t ≠ []) :
    ∃ u, LaidOut n u ∧ u.length < t.length ∧ cutBlocks n.toList t = cutBlocks n.toList u ∧
      Leaves n t u := by
  obtain ⟨y, hy⟩ := List.exists_mem_of_ne_nil _ hblock
  obtain ⟨hfound, hname⟩ := List.mem_filter.1 hy
  obtain ⟨p, body, s, f, hdivides, hp, hbody, hvalue, hopen⟩ :=
    TableBlock.exists_of_mem_spans hfound
  obtain ⟨hsettled, hbegins, hnext⟩ := h.blocks y hy _ _ _ hdivides
  obtain rfl := hdivides.text
  rw [hvalue, decide_eq_true_iff] at hname
  have hlast : (f.text ++ (body ++ ['}'])).getLast? = some '}' := by
    rw [← List.append_assoc, List.getLast?_concat]
  have hx (s : List Char) : Breaks (f.text ++ (body ++ ['}'])) s := by
    refine Breaks.of_last ?_
    rw [hlast]
    rfl
  have hr : Removable p (f.text ++ (body ++ ['}'])) s :=
    ⟨hsettled, hp, fun ho => absurd ho hopen, .inr (.inl hlast)⟩
  obtain ⟨hblocks, hreferences⟩ := TableBlock.detached_block hsettled hp hopen hlast s
  have hself : ∀ z ∈ TableBlock.spansOf n (f.text ++ (body ++ ['}'])),
      z.start = 0 ∧ z.stop = byteLength (f.text ++ (body ++ ['}'])) := by
    intro z hz
    have hmem := (List.mem_filter.1 hz).1
    rw [f.findAll_text hbody] at hmem
    obtain rfl := List.mem_singleton.1 hmem
    generalize f.text ++ (body ++ ['}']) = x
    simp [Occurrence.span, start, toEnd, advance, offset, byteLength]
  obtain ⟨hplaces, hplaces'⟩ := TableBlock.exists_moves_iff hblocks hp (hx s) hself
  refine ⟨p ++ s, ?_, ?_, f.cutBlocks_append hname hbody hblocks hp (hx s),
    .of_detached hreferences hp (hx s) (f.filter_tables_append hname hbody hblocks hp (hx s))⟩
  · exact h.without hr hplaces (fun y hy _ _ _ => h.blocks_without hr hbegins hnext hplaces' hy)
      fun _ _ _ => hr.exists_keeps hbegins hnext
  · simp only [List.length_append, List.length_singleton]
    omega

/-- A text without blocks of the table keeps all its blocks. -/
theorem cutBlocks_of_spansOf (h : TableBlock.spansOf n t = []) : cutBlocks n.toList t = t := by
  have hnone : (TableBlock.findAll t).filter (·.value.name = n.toList) = [] := by
    refine List.filter_eq_nil_iff.2 fun o ho hname => ?_
    exact List.filter_eq_nil_iff.1 h _ (List.mem_map_of_mem ho) hname
  unfold cutBlocks
  rw [hnone]
  rfl

/-- Without the blocks of the table a text stays laid out for its removal, and has no other blocks of
it. -/
theorem LaidOut.withoutBlocks {t : List Char} (h : LaidOut n t) :
    LaidOut n (cutBlocks n.toList t) ∧ TableBlock.spansOf n (cutBlocks n.toList t) = [] ∧
      Leaves n t (cutBlocks n.toList t) := by
  by_cases hblock : TableBlock.spansOf n t = []
  · rw [cutBlocks_of_spansOf hblock]
    exact ⟨h, hblock, rfl, List.Sublist.refl _⟩
  · obtain ⟨u, hu, hlt, hcut, hleaves⟩ := h.exists_without_block hblock
    obtain ⟨hlaid, hnone, hleaves'⟩ := hu.withoutBlocks
    rw [hcut]
    exact ⟨hlaid, hnone, hleaves.trans hleaves'⟩
termination_by t.length

end SchemaDiagram
