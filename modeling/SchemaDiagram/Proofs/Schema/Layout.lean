import SchemaDiagram.Proofs.Schema.Removable

/-!
# Texts that are laid out for the removal of a table

A table is removed by its blocks and by the lines that refer to it. A text is `LaidOut` for that if
what precedes each of these parts is settled, so that nothing new is read where the text around it
joins, if no such line holds a piece of something else, and if every reference from or to the table
is on a line that begins with it. All this is said of the text as it is written, in the grammar of
blocks and references and without the readers: the blocks of the table are those of the leftmost ones
that have its name (`TableBlock.mem_spansOf_iff`). A line that begins with a reference from or to the
table is one of the lines that refer to it (`LaidOut.exists_refersTo`).

A text stays laid out when one of the parts is taken out of it (`LaidOut.without`). For a block that
rests on what can begin the line that its two neighbours make up (`joined_cases`).
-/

namespace SchemaDiagram

open Character Cursor SchemaText

/-! ## Places and lines -/

/-- The place divides the text `t` into the text `x` at the place and what is before and behind. -/
structure Span.Divides {α : Type} (y : Span α) (t p x s : List Char) : Prop where
  /-- The three make up the text. -/
  text : t = p ++ (x ++ s)
  /-- The place starts behind the first one. -/
  start : byteLength p = y.start
  /-- It stops in front of the last one. -/
  stop : byteLength (p ++ x) = y.stop

/-- What lies between the bytes `i` and `j` is in none of the places. -/
def Beside {α : Type} (xs : List (Span α)) (i j : Nat) : Prop :=
  ∀ x ∈ xs, x.stop ≤ i ∨ j ≤ x.start

/-- Blanks within a line. -/
def IsIndent (gap : List Char) : Prop :=
  ∀ c ∈ gap, isBlank c = true ∧ c ≠ '\n'

/-- There are only blanks on the last line of the text. -/
def BeginsLine (p : List Char) : Prop :=
  ∃ a gap, p = a ++ gap ∧ LineBehind a ∧ IsIndent gap

/-- The last line of the text begins with the letters of `ref`. -/
def BeginsReference (p : List Char) : Prop :=
  ∃ a gap w v, p = a ++ (gap ++ (w ++ v)) ∧ LineBehind a ∧ IsIndent gap ∧
    Text.sameLetters w Reference.keyword.letters = true ∧ '\n' ∉ v

/-- The first line of the text begins with the letters of `ref`. -/
def NextReference (s : List Char) : Prop :=
  ∃ gap w v, s = gap ++ (w ++ v) ∧ IsIndent gap ∧
    Text.sameLetters w Reference.keyword.letters = true

/-! ## The layout -/

/-- The places of the blocks of a table. -/
def TableBlock.spansOf (n : String) (t : List Char) : List (Span TableBlock) :=
  ((findAll t).map Occurrence.span).filter (·.value.name = n.toList)

/-- The blocks that are found are the leftmost ones that stand in the text. -/
theorem TableBlock.leftmost_spans (t : List Char) :
    Leftmost (Stands keyword Completes t) 0 ((findAll t).map Occurrence.span) :=
  (leftmost_iff isWord_keyword recognizes_tail? t _).2 rfl

/-- Without the reader: the blocks of a table are those of the leftmost ones that have its name. -/
theorem TableBlock.mem_spansOf_iff {n : String} {t : List Char} {y : Span TableBlock} :
    y ∈ spansOf n t ↔
      ∃ ys, Leftmost (Stands keyword Completes t) 0 ys ∧ y ∈ ys ∧ y.value.name = n.toList := by
  rw [spansOf, List.mem_filter, decide_eq_true_iff]
  constructor
  · exact fun h => ⟨_, leftmost_spans t, h⟩
  · rintro ⟨ys, hys, h⟩
    rwa [(leftmost_iff isWord_keyword recognizes_tail? t ys).1 hys] at h

/-- The relationship leads from or to the table. -/
def Relationship.Touches (r : Relationship) (n : String) : Prop :=
  r.endpoints.source.table = n ∨ r.endpoints.target.table = n

/-- The name begins and ends with characters of words. -/
def IsBounded (n : String) : Prop :=
  n.toList.head?.any isWord = true ∧ n.toList.getLast?.any isWord = true

/-- The line `l` behind `p` holds no piece of anything else in the text `t`. -/
structure WholeLine (t p l : List Char) : Prop where
  /-- What comes before it is settled. -/
  settled : Settled p
  /-- No table block begins or ends on it. -/
  blocks : ∀ y, Stands TableBlock.keyword TableBlock.Completes t y →
    (y.start < byteLength p ∨ byteLength (p ++ l) ≤ y.start) ∧
      (y.stop ≤ byteLength p ∨ byteLength (p ++ l) < y.stop)
  /-- No reference that begins on it goes on behind it. -/
  references : ∀ y, Stands Reference.keyword Reference.Completes t y → byteLength p ≤ y.start →
    y.start < byteLength (p ++ l) → y.stop ≤ byteLength (p ++ l)

/-- The text is laid out for the removal of the table `n`. -/
structure LaidOut (n : String) (t : List Char) : Prop where
  /-- What comes before a block of the table is settled. No `ref` begins the line before it, and none
  comes next on the line behind it. -/
  blocks : ∀ y ∈ TableBlock.spansOf n t, ∀ p x s, y.Divides t p x s →
    Settled p ∧ ¬BeginsReference p ∧ ¬NextReference s
  /-- The lines that refer to the table, outside of its blocks, hold no piece of anything else. -/
  lines : ∀ p l s, t = p ++ (l ++ s) → LineBehind p → IsLine l s → RefersTo n.toList l →
    Beside (TableBlock.spansOf n t) (byteLength p) (byteLength (p ++ l)) → WholeLine t p l
  /-- A reference from or to the table, outside of its blocks, begins its line and ends on it, and the
  name can be told there as a word. -/
  references : ∀ y, Stands Reference.keyword Reference.Completes t y → y.value.Touches n →
    Beside (TableBlock.spansOf n t) y.start y.stop →
      IsBounded n ∧ ∀ p x s, y.Divides t p x s → BeginsLine p ∧ '\n' ∉ x

variable {n : String} {p x s m t : List Char}

/-- A place in a text of two parts that is in one of them divides that part. -/
theorem Span.Divides.of_append {α : Type} {y : Span α} {a b c : List Char}
    (h : y.Divides (p ++ s) a b c) (hside : y.stop ≤ byteLength p ∨ byteLength p ≤ y.start) :
    (∃ r, p = a ++ (b ++ r) ∧ c = r ++ s) ∨ ∃ r, a = p ++ r ∧ s = r ++ (b ++ c) := by
  obtain ⟨htext, hstart, hstop⟩ := h
  rcases hside with hside | hside
  · obtain ⟨r, rfl⟩ : a ++ b <+: p :=
      prefix_of_byteLength_le (by rw [List.append_assoc, htext]) (hstop.trans_le hside)
    exact .inl ⟨r, List.append_assoc a b r, by simpa using htext.symm⟩
  · obtain ⟨r, rfl⟩ : p <+: a := prefix_of_byteLength_le htext (hside.trans_eq hstart.symm)
    exact .inr ⟨r, rfl, by simpa using htext⟩

/-! ## Lines that begin with a reference -/

/-- A line with the keyword and the name, in front of which no word goes on, refers to the table. -/
theorem IsBounded.refersTo {gap w u v : List Char} (hn : IsBounded n) (hgap : IsIndent gap)
    (hsame : Text.sameLetters w Reference.keyword.letters = true)
    (hu : ∀ c ∈ u.getLast?, isWord c = false) :
    RefersTo n.toList (gap ++ (w ++ ([] ++ ':' :: (u ++ (n.toList ++ '.' :: v))))) := by
  obtain ⟨hhead, hlast⟩ := hn
  obtain ⟨c, name, hc⟩ : ∃ c name, n.toList = c :: name := by
    refine List.exists_cons_of_ne_nil fun hnil => ?_
    rw [hnil] at hhead
    cases hhead
  have hbefore : (':' :: u).getLast?.any isWord = false := by
    rw [List.getLast?_cons, Option.any_some]
    cases hu' : u.getLast? with
    | none => rfl
    | some d => exact hu d hu'
  have hname : (':' :: (u ++ n.toList)).getLast?.any isWord = true := by
    rw [← List.cons_append, List.getLast?_append_of_ne_nil _ (by simp [hc])]
    exact hlast
  refine .intro (fun c hc => (hgap c hc).1) hsame (by simp) ?_ ?_
  · rw [hc] at hhead ⊢
    unfold isWordBoundary
    rw [hbefore]
    simpa using hhead
  · unfold isWordBoundary
    rw [hname]
    rfl

/-- A character of operators is none of words. -/
theorem Reference.isWord_of_isOperatorChar {c : Char} (h : Reference.isOperatorChar c = true) :
    isWord c = false := by
  have hcases : c = '<' ∨ c = '>' ∨ c = '-' := by
    simpa [Reference.isOperatorChar, or_assoc] using h
  rcases hcases with rfl | rfl | rfl <;> rfl

/-- A text that completes a reference to the table makes a line with the keyword that refers to
it. -/
theorem Reference.Completes.refersTo {gap w v : List Char} {r : Relationship} (h : Completes t r)
    (hgap : IsIndent gap) (hsame : Text.sameLetters w keyword.letters = true) (hn : IsBounded n)
    (htouches : r.Touches n) : RefersTo n.toList (gap ++ (w ++ (t ++ v))) := by
  obtain ⟨hgap', -, -, operator_ne, hoperator, -, hgapBehind⟩ := h
  rename_i gap' gapBefore operator gapBehind
  -- In front of the one name is a colon or a blank, and of the other one an operator or a blank.
  rcases htouches with hsource | htarget
  · have hu : ∀ c ∈ gap'.getLast?, isWord c = false :=
      fun c hc => isWord_of_isBlank (hgap' c (List.mem_of_getLast? hc))
    have hsplit := hn.refersTo hgap hsame hu (v := r.endpoints.source.column.toList ++
      (gapBefore ++ (operator ++ (gapBehind ++ (r.endpoints.target.dotted ++ v)))))
    simpa [ColumnRef.dotted, hsource] using hsplit
  · have hmark : ∀ c ∈ operator ++ gapBehind, isWord c = false := fun c hc =>
      (List.mem_append.1 hc).elim (fun hc => isWord_of_isOperatorChar (hoperator c hc))
        fun hc => isWord_of_isBlank (hgapBehind c hc)
    have hu : ∀ c ∈ (gap' ++ (r.endpoints.source.dotted ++ (gapBefore ++
        (operator ++ gapBehind)))).getLast?, isWord c = false := by
      intro c hc
      rw [← List.append_assoc, ← List.append_assoc,
        List.getLast?_append_of_ne_nil _ (by simp [operator_ne])] at hc
      exact hmark c (List.mem_of_getLast? hc)
    have hsplit := hn.refersTo hgap hsame hu (v := r.endpoints.target.column.toList ++ v)
    simpa [ColumnRef.dotted, htarget] using hsplit

/-- Where something stands, its keyword and what completes it divide the text. -/
theorem Stands.exists_divides {α : Type} {keyword : Keyword} {form : List Char → α → Prop}
    {y : Span α} (h : Stands keyword form t y) :
    ∃ p w u s, y.Divides t p (w ++ u) s ∧ p.getLast?.any isIdent = false ∧
      Text.sameLetters w keyword.letters = true ∧ form u y.value := by
  obtain ⟨htext, hstart, hstop, hbefore, hsame, hform, -⟩ := h
  exact ⟨_, _, _, _, ⟨by simpa using htext, hstart, hstop⟩, hbefore, hsame, hform⟩

/-- A line that begins with a reference from or to the table refers to it. -/
theorem LaidOut.exists_refersTo (h : LaidOut n t) {y : Span Relationship}
    (hy : Stands Reference.keyword Reference.Completes t y) (htouches : y.value.Touches n)
    (hbeside : Beside (TableBlock.spansOf n t) y.start y.stop) :
    ∃ p l s, t = p ++ (l ++ s) ∧ LineBehind p ∧ IsLine l s ∧ RefersTo n.toList l := by
  obtain ⟨hn, hline⟩ := h.references y hy htouches hbeside
  obtain ⟨q, w, u, rest, hdivides, -, hsame, hform⟩ := hy.exists_divides
  obtain ⟨⟨a, gap, rfl, ha, hgap⟩, hbreak⟩ := hline _ _ _ hdivides
  obtain ⟨v, s, rfl, hv, hended⟩ := exists_upTo_break rest
  have hne := ne_nil_of_sameLetters hsame
  have hindent : '\n' ∉ gap := fun hmem => (hgap _ hmem).2 rfl
  simp only [List.mem_append, not_or] at hbreak
  refine ⟨a, gap ++ (w ++ (u ++ v)), s, ?_, ha, ⟨?_, ?_, ?_⟩, hform.refersTo hgap hsame hn htouches⟩
  · simpa using hdivides.text
  · simp [hne]
  · cases v with
    | nil =>
      intro hmem
      have hmem' := List.dropLast_subset _ hmem
      simp [hindent, hbreak] at hmem'
    | cons c v =>
      rw [← List.append_assoc, ← List.append_assoc, List.dropLast_append_of_ne_nil (by simp)]
      simp [hindent, hbreak, hv]
  · rcases hended with hlast | rfl
    · left
      rw [← List.append_assoc, ← List.append_assoc, List.getLast?_append, hlast]
      rfl
    · exact .inr rfl

/-! ## The line that two parts make up -/

/-- Where two parts of a text join, a line that begins with `ref` lies in the first part or behind
it: none begins in the first part and goes on into the second one. -/
theorem joined_cases {a l gap w v : List Char} (hp : p.getLast?.any isIdent = false)
    (hbegins : ¬BeginsReference p) (hnext : ¬NextReference s) (hsplit : p ++ s = a ++ (l ++ m))
    (ha : LineBehind a) (hl : l = gap ++ (w ++ v)) (hgap : IsIndent gap)
    (hsame : Text.sameLetters w Reference.keyword.letters = true) (hv : '\n' ∉ v.dropLast)
    (hended : l.getLast? = some '\n' ∨ m = []) :
    (∃ b, p = a ++ (l ++ b) ∧ l.getLast? = some '\n') ∨ ∃ b, b ≠ [] ∧ a = p ++ b := by
  have hwhole {b : List Char} (hfirst : p = a ++ (l ++ b)) (hm : m = b ++ s) :
      ∃ b, p = a ++ (l ++ b) ∧ l.getLast? = some '\n' := by
    by_cases hlast : l.getLast? = some '\n'
    · exact ⟨b, hfirst, hlast⟩
    · obtain ⟨rfl, -⟩ := List.append_eq_nil_iff.1 (hm.symm.trans (hended.resolve_left hlast))
      refine absurd ⟨a, gap, w, v, by rw [hfirst, hl, List.append_nil], ha, hgap, hsame, ?_⟩ hbegins
      intro hbreak
      cases v using List.reverseRecOn with
      | nil => cases hbreak
      | append_singleton v c =>
        rw [List.dropLast_concat] at hv
        obtain rfl : '\n' = c := by simpa [hv] using hbreak
        exact hlast (by simp [hl, ← List.append_assoc])
  rcases List.append_eq_append_iff.1 hsplit with ⟨b, rfl, hs⟩ | ⟨c, rfl, hc⟩
  · refine .inr ⟨b, ?_, rfl⟩
    rintro rfl
    exact hnext ⟨gap, w, v ++ m, by simp [hs, hl], hgap, hsame⟩
  rcases List.append_eq_append_iff.1 hc with ⟨b, rfl, hm⟩ | ⟨d, hcd, hs⟩
  · exact .inl (hwhole rfl hm)
  rcases List.append_eq_append_iff.1 (hl.symm.trans hcd) with ⟨c, rfl, hwv⟩ | ⟨g, rfl, hd⟩
  · rcases List.append_eq_append_iff.1 hwv with ⟨v', rfl, rfl⟩ | ⟨w', rfl, hd⟩
    · -- The keyword is in the first part.
      cases d with
      | nil => exact .inl (hwhole (b := []) (by simp [hcd]) (by simpa using hs.symm))
      | cons d rest =>
        rw [List.dropLast_append_of_ne_nil (List.cons_ne_nil d rest), List.mem_append, not_or] at hv
        exact absurd ⟨a, gap, w, v', rfl, ha, hgap, hsame, hv.1⟩ hbegins
    · cases c using List.reverseRecOn with
      | nil => exact absurd ⟨[], w', v ++ m, by simp [hs, hd], by simp [IsIndent], hsame⟩ hnext
      | append_singleton c x =>
        -- The first part ends within the keyword.
        have hx := Scan.isIdent_of_sameLetters Reference.isWord_keyword.2 hsame x (by simp)
        rw [← List.append_assoc, ← List.append_assoc, List.getLast?_concat, Option.any_some, hx] at hp
        cases hp
  · refine absurd ⟨g, w, v ++ m, by simp [hs, hd], fun c hc => ?_, hsame⟩ hnext
    exact hgap c (List.mem_append_right _ hc)

/-! ## Without a part -/

/-- The part `l` between `a` and `c` in a text without the part `x` is the one between `a'` and `c'`
in the text with it. -/
inductive Keeps (p x s l : List Char) : (a c a' c' : List Char) → Prop where
  /-- It is before the part. -/
  | before {a b : List Char} (h : p = a ++ (l ++ b)) :
    Keeps p x s l a (b ++ s) a (b ++ (x ++ s))
  /-- It is behind the part. -/
  | behind {b c : List Char} (h : s = b ++ (l ++ c)) :
    Keeps p x s l (p ++ b) c (p ++ (x ++ b)) c

/-- The part is in the text with the other one. -/
theorem Keeps.text {a c a' c' l : List Char} (h : Keeps p x s l a c a' c') :
    p ++ (x ++ s) = a' ++ (l ++ c') := by
  cases h with
  | before hp => simp [hp]
  | behind hs => simp [hs]

/-- A place in the text without the part divides the text with it where it moves to. -/
theorem Span.Divides.exists_keeps {α : Type} {y z : Span α} {a b c : List Char}
    (h : y.Divides (p ++ s) a b c) (hmoves : Moves (byteLength p) (byteLength x) y z)
    (hside : y.stop ≤ byteLength p ∨ byteLength p ≤ y.start) (hpos : y.start < y.stop) :
    ∃ a' c', Keeps p x s b a c a' c' ∧ z.Divides (p ++ (x ++ s)) a' b c' := by
  obtain ⟨hstart, hstop⟩ := hmoves
  have hfirst := h.start
  have hlast := h.stop
  rcases h.of_append hside with ⟨r, hp, rfl⟩ | ⟨r, rfl, hs⟩
  · have hkeeps : Keeps p x s b a (r ++ s) a (r ++ (x ++ s)) := .before hp
    refine ⟨_, _, hkeeps, hkeeps.text, ?_, ?_⟩
    · rw [hp] at hstart hside
      simp only [byteLength_append] at *
      omega
    · rw [hp] at hstop hside
      simp only [byteLength_append] at *
      omega
  · have hkeeps : Keeps p x s b (p ++ r) c (p ++ (x ++ r)) c := .behind hs
    refine ⟨_, _, hkeeps, hkeeps.text, ?_, ?_⟩
    · simp only [byteLength_append] at *
      omega
    · simp only [byteLength_append] at *
      omega

namespace Removable

/-- What begins a line behind a part that can be taken out begins a line without it. -/
theorem beginsLine (h : Removable p x s) (hs : s ≠ []) (hm : BeginsLine (p ++ (x ++ m))) :
    BeginsLine (p ++ m) := by
  obtain ⟨a, gap, hsplit, ha, hgap⟩ := hm
  rw [← List.append_assoc] at hsplit
  have hback := h.back.resolve_left hs
  have hne : x ≠ [] := by
    rintro rfl
    simp at hback
  have hbehind {c : List Char} (ha : LineBehind (p ++ x ++ c)) : LineBehind (p ++ c) := by
    cases c with
    | nil =>
      rw [List.append_nil, lineBehind_append hne] at ha
      rw [List.append_nil]
      rcases hback with hlast | ⟨-, hp⟩
      · rw [LineBehind, hlast] at ha
        cases ha
      · exact hp
    | cons d c =>
      rw [lineBehind_append (List.cons_ne_nil d c)] at ha ⊢
      exact ha
  rcases List.append_eq_append_iff.1 hsplit with ⟨c, rfl, rfl⟩ | ⟨c, hx, rfl⟩
  · exact ⟨p ++ c, gap, by simp, hbehind ha, hgap⟩
  · cases c using List.reverseRecOn with
    | nil =>
      rw [List.append_nil] at hx
      exact ⟨p, m, rfl, by simpa using hbehind (c := []) (by rwa [List.append_nil, hx]), hgap⟩
    | append_singleton c d =>
      -- The last character of the part is no blank within a line.
      have hlast : x.getLast? = some d := by
        rw [← List.getLast?_append_of_ne_nil p hne, hx, ← List.append_assoc, List.getLast?_concat]
      obtain ⟨hblank, hd⟩ := hgap d (by simp)
      rw [hlast] at hback
      rcases hback with hbrace | ⟨hbreak, -⟩
      · rw [Option.some.inj hbrace] at hblank
        cases hblank
      · exact absurd (Option.some.inj hbreak) hd

/-- A line that holds no piece of anything else does not do so without a part before or behind
it. -/
theorem wholeLine (h : Removable p x s) {l a c a' c' : List Char} (hl : l ≠ [])
    (hkeeps : Keeps p x s l a c a' c') (hw : WholeLine (p ++ (x ++ s)) a' l) :
    WholeLine (p ++ s) a l := by
  constructor
  case settled =>
    cases hkeeps with
    | before => exact hw.settled
    | behind hs => exact h.settled_append (by simp [hs, hl]) hw.settled
  case blocks =>
    intro y hy
    obtain ⟨z, hz, hmoves, hmoves'⟩ := h.stands_block hy
    obtain ⟨hstart, hstop⟩ := hw.blocks z hz
    cases hkeeps with
    | before hp =>
      rw [hp] at hmoves hmoves'
      simp only [byteLength_append] at *
      omega
    | behind hs =>
      simp only [byteLength_append] at *
      omega
  case references =>
    intro y hy hfirst hlast
    obtain ⟨z, hz, ⟨hmoves, hmoves'⟩, -⟩ := h.stands_reference hy
    have hends := hw.references z hz
    cases hkeeps with
    | before hp =>
      rw [hp] at hmoves hmoves'
      simp only [byteLength_append] at *
      omega
    | behind hs =>
      simp only [byteLength_append] at *
      omega

end Removable

/-- What is beside all places of a text without a part is beside those of the text with it, if the
part itself is all that comes to them. -/
theorem Beside.keeps {α : Type} {xs xs' : List (Span α)} {a c a' c' l : List Char}
    (hplaces : ∀ z ∈ xs', z.start = byteLength p ∧ z.stop = byteLength p + byteLength x ∨
      ∃ y ∈ xs, Moves (byteLength p) (byteLength x) y z)
    (hl : l ≠ []) (hkeeps : Keeps p x s l a c a' c')
    (h : Beside xs (byteLength a) (byteLength (a ++ l))) :
    Beside xs' (byteLength a') (byteLength (a' ++ l)) := by
  have hpos := byteLength_pos hl
  intro z hz
  rcases hplaces z hz with ⟨hstart, hstop⟩ | ⟨y, hy, hmoves, hmoves'⟩
  · cases hkeeps with
    | before hp =>
      rw [hp] at hstart
      simp only [byteLength_append] at *
      omega
    | behind hs =>
      simp only [byteLength_append] at *
      omega
  · have hbeside := h y hy
    cases hkeeps with
    | before hp =>
      rw [hp] at hmoves hmoves'
      simp only [byteLength_append] at *
      omega
    | behind hs =>
      simp only [byteLength_append] at *
      omega

/-- A text stays laid out when a part is taken out of it. -/
theorem LaidOut.without (h : LaidOut n (p ++ (x ++ s))) (hr : Removable p x s)
    (hplaces : ∀ z ∈ TableBlock.spansOf n (p ++ (x ++ s)),
      z.start = byteLength p ∧ z.stop = byteLength p + byteLength x ∨
        ∃ y ∈ TableBlock.spansOf n (p ++ s), Moves (byteLength p) (byteLength x) y z)
    (hblocks : ∀ y ∈ TableBlock.spansOf n (p ++ s), ∀ a b c, y.Divides (p ++ s) a b c →
      Settled a ∧ ¬BeginsReference a ∧ ¬NextReference c)
    (hlines : ∀ a l c, p ++ s = a ++ (l ++ c) → LineBehind a → IsLine l c → RefersTo n.toList l →
      ∃ a' c', Keeps p x s l a c a' c' ∧ LineBehind a' ∧ IsLine l c') :
    LaidOut n (p ++ s) where
  blocks := hblocks
  lines a l c hsplit ha hl hrefers hbeside := by
    obtain ⟨a', c', hkeeps, ha', hl'⟩ := hlines a l c hsplit ha hl hrefers
    refine hr.wholeLine hl.nonempty hkeeps (h.lines a' l c' hkeeps.text ha' hl' hrefers ?_)
    exact hbeside.keeps hplaces hl.nonempty hkeeps
  references y hy htouches hbeside := by
    obtain ⟨z, hz, hmoves, hvalue⟩ := hr.stands_reference hy
    have hside := hr.settled.reference_beside hr.front hy
    have hplace {a b c : List Char} (hdivides : y.Divides (p ++ s) a b c) :
        ∃ a' c', Keeps p x s b a c a' c' ∧ z.Divides (p ++ (x ++ s)) a' b c' ∧ b ≠ [] := by
      obtain ⟨a', c', hkeeps, hz⟩ := hdivides.exists_keeps hmoves hside hy.start_lt_stop
      refine ⟨a', c', hkeeps, hz, ?_⟩
      rintro rfl
      have hpos := hy.start_lt_stop
      rw [← hdivides.start, ← hdivides.stop, List.append_nil] at hpos
      exact absurd hpos (Nat.lt_irrefl _)
    have hbeside' : Beside (TableBlock.spansOf n (p ++ (x ++ s))) z.start z.stop := by
      obtain ⟨a, w, u, c, hdivides, -⟩ := hy.exists_divides
      obtain ⟨a', c', hkeeps, hz, hne⟩ := hplace hdivides
      rw [← hdivides.start, ← hdivides.stop] at hbeside
      rw [← hz.start, ← hz.stop]
      exact hbeside.keeps hplaces hne hkeeps
    obtain ⟨hn, hline⟩ := h.references z hz (hvalue ▸ htouches) hbeside'
    refine ⟨hn, fun a b c hdivides => ?_⟩
    obtain ⟨a', c', hkeeps, hz, hne⟩ := hplace hdivides
    obtain ⟨hbegins, hbreak⟩ := hline _ _ _ hz
    cases hkeeps with
    | before => exact ⟨hbegins, hbreak⟩
    | behind hs => exact ⟨hr.beginsLine (by simp [hs, hne]) hbegins, hbreak⟩

end SchemaDiagram
