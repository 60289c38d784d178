import SchemaDiagram.Proofs.Text.Leftmost

/-!
# Where constructs stand in a text of two parts

A construct that stands in the first part of a text or in the second one stands in the whole text,
and one that stands there stands in one of the parts (`Stands.extend`, `Stands.behind`,
`Stands.of_extend`, `Stands.of_behind`) or else across the place where they meet
(`Stands.exists_across`). If there is none across, then the reader keeps the parts apart
(`apart_of_stands`).
-/

namespace SchemaDiagram

open Character Cursor

variable {α : Type}

/-- The place with `n` more bytes in front of it. -/
def Span.shift (x : Span α) (n : Nat) : Span α :=
  ⟨x.start + n, x.stop + n, x.value⟩

/-! ## Breaks -/

/-- What no identifier runs into has no identifier running into its first part. -/
theorem Breaks.of_extend {t rest s : List Char} (h : Breaks t (rest ++ s)) : Breaks t rest := by
  intro hlast
  have hstops := h hlast
  cases rest with
  | nil => exact stops_nil
  | cons c rest => exact stops_cons.2 (stops_cons.1 hstops)

/-- Behind a text that does not end with an identifier another one does not run into it. -/
theorem Breaks.extend {a t rest : List Char} (h : Breaks t rest)
    (hlast : (a ++ (t ++ rest)).getLast?.any isIdent = false) (s : List Char) :
    Breaks t (rest ++ s) := by
  intro hident
  cases rest with
  | cons c rest => exact stops_cons.2 (stops_cons.1 (h hident))
  | nil =>
    cases t using List.reverseRecOn with
    | nil => cases hident
    | append_singleton t c =>
      simp only [List.append_nil, ← List.append_assoc, List.getLast?_concat] at hlast hident
      rw [hident] at hlast
      cases hlast

section stands

variable {keyword : Keyword} {form : List Char → α → Prop} {p s : List Char} {x y : Span α}

/-- The letters of a keyword are not empty, in whatever case they are. -/
theorem ne_nil_of_sameLetters {w : List Char} (h : Text.sameLetters w keyword.letters = true) :
    w ≠ [] := by
  rw [← List.length_pos_iff, length_eq_of_sameLetters h]
  exact List.length_pos_iff.2 keyword.nonempty

/-- A construct has a keyword, so it is not empty. -/
theorem Stands.start_lt_stop (h : Stands keyword form s y) : y.start < y.stop := by
  obtain ⟨-, hstart, hstop, -, hsame, -, -⟩ := h
  rename_i p w t rest
  have hpos := byteLength_pos (ne_nil_of_sameLetters hsame)
  simp only [byteLength_append] at hstop
  omega

/-- A construct ends in the text. -/
theorem Stands.stop_le (h : Stands keyword form s y) : y.stop ≤ byteLength s := by
  obtain ⟨rfl, -, hstop, -, -, -, -⟩ := h
  simp only [byteLength_append] at hstop ⊢
  omega

/-- What stands in a text stands there also if the text goes on. -/
theorem Stands.extend (h : Stands keyword form p y) (hp : p.getLast?.any isIdent = false)
    (s : List Char) : Stands keyword form (p ++ s) y := by
  obtain ⟨rfl, hstart, hstop, hbefore, hsame, hform, hends⟩ := h
  rename_i q w t rest
  rw [← List.append_assoc] at hp
  exact .intro (by simp) hstart hstop hbefore hsame hform (hends.extend hp s)

/-- What stands in a text stands there also if there is something before it. -/
theorem Stands.behind (h : Stands keyword form s y) (hp : p.getLast?.any isIdent = false) :
    Stands keyword form (p ++ s) (y.shift (byteLength p)) := by
  obtain ⟨rfl, hstart, hstop, hbefore, hsame, hform, hends⟩ := h
  rename_i q w t rest
  refine .intro (p := p ++ q) (by simp) ?_ ?_ ?_ hsame hform hends
  · rw [byteLength_append, hstart, Span.shift, Nat.add_comm]
  · rw [List.append_assoc, byteLength_append, hstop, Span.shift, Nat.add_comm]
  · cases q using List.reverseRecOn with
    | nil => rwa [List.append_nil]
    | append_singleton q c => simpa [← List.append_assoc] using hbefore

/-- What ends in the first part of a text stands in that part. -/
theorem Stands.of_extend (h : Stands keyword form (p ++ s) y) (hy : y.stop ≤ byteLength p) :
    Stands keyword form p y := by
  obtain ⟨htext, hstart, hstop, hbefore, hsame, hform, hends⟩ := h
  rename_i q w t rest
  rw [← List.append_assoc w, ← List.append_assoc q] at htext
  obtain ⟨rest', rfl⟩ := prefix_of_byteLength_le htext.symm (hstop.trans_le hy)
  rw [List.append_assoc, List.append_cancel_left_eq] at htext
  rw [← htext] at hends
  exact .intro (by simp) hstart hstop hbefore hsame hform hends.of_extend

/-- What begins in the second part of a text stands in that part. -/
theorem Stands.of_behind (h : Stands keyword form (p ++ s) y) (hy : byteLength p ≤ y.start) :
    ∃ z, Stands keyword form s z ∧ y = z.shift (byteLength p) := by
  obtain ⟨htext, hstart, hstop, hbefore, hsame, hform, hends⟩ := h
  rename_i q w t rest
  obtain ⟨q, rfl⟩ := prefix_of_byteLength_le htext (hy.trans hstart.ge)
  rw [List.append_assoc, List.append_cancel_left_eq] at htext
  obtain ⟨start, stop, value⟩ := y
  simp only [List.append_assoc, byteLength_append p] at hstart hstop
  subst hstart hstop
  refine ⟨⟨byteLength q, byteLength (q ++ (w ++ t)), value⟩,
    .intro htext rfl rfl ?_ hsame hform hends, ?_⟩
  · cases q using List.reverseRecOn with
    | nil => rfl
    | append_singleton q c => simpa [← List.append_assoc] using hbefore
  · simp only [Span.shift, Nat.add_comm]

/-- What begins in the first part of a text and ends in the second has its keyword in the first
one. -/
theorem Stands.exists_across (h : Stands keyword form (p ++ s) y)
    (hword : IsWord keyword.letters) (hp : p.getLast?.any isIdent = false)
    (hstart : y.start < byteLength p) (hstop : byteLength p < y.stop) :
    ∃ a w t u rest, p = a ++ (w ++ t) ∧ s = u ++ rest ∧ u ≠ [] ∧ byteLength a = y.start ∧
      byteLength (p ++ u) = y.stop ∧ a.getLast?.any isIdent = false ∧
      Text.sameLetters w keyword.letters = true ∧ form (t ++ u) y.value ∧ Breaks (t ++ u) rest := by
  obtain ⟨htext, hy, hy', hbefore, hsame, hform, hends⟩ := h
  rename_i a w t rest
  obtain ⟨b, hb⟩ := prefix_of_byteLength_le htext.symm (hy.trans_lt hstart).le
  rw [← hb, List.append_assoc, List.append_cancel_left_eq] at htext
  -- The first part does not end within the keyword, since no identifier runs across.
  have hw : w <+: b := by
    rcases List.append_eq_append_iff.1 htext with ⟨x, rfl, hs⟩ | ⟨x, rfl, -⟩
    · cases b using List.reverseRecOn with
      | nil =>
        rw [← hb, List.append_nil, hy] at hstart
        exact absurd hstart (Nat.lt_irrefl _)
      | append_singleton b c =>
        have hc := Scan.isIdent_of_sameLetters hword.2 hsame c (by simp)
        rw [← hb, ← List.append_assoc, List.getLast?_concat, Option.any_some, hc] at hp
        cases hp
    · exact List.prefix_append w x
  obtain ⟨t', rfl⟩ := hw
  rw [List.append_assoc, List.append_cancel_left_eq] at htext
  have ht : t' <+: t := by
    refine (prefix_of_byteLength_le htext ?_)
    rw [← hb] at hstop
    simp only [byteLength_append] at hy' hstop
    omega
  obtain ⟨u, rfl⟩ := ht
  rw [List.append_assoc, List.append_cancel_left_eq] at htext
  refine ⟨a, w, t', u, rest, hb.symm, htext, ?_, hy, ?_, hbefore, hsame, hform, hends⟩
  · rintro rfl
    rw [← hb] at hstop
    rw [List.append_nil] at hy'
    omega
  · rw [← hy', ← hb]
    simp only [List.append_assoc]

/-- The reader keeps two parts of a text apart if no construct stands across. -/
theorem apart_of_stands {read? : List Char → Option (α × List Char)}
    (hread : Scan.Recognizes read? form) (hp : p.getLast?.any isIdent = false)
    (h : ∀ y, Stands keyword form (p ++ s) y → y.stop ≤ byteLength p ∨ byteLength p ≤ y.start) :
    Apart keyword (Scan.orStay read?) p s := by
  rintro a w t rfl hbefore hsame
  unfold Scan.orStay
  cases hfound : read? (t ++ s) with
  | some found =>
    obtain ⟨v, rest⟩ := found
    obtain ⟨u, hu, hform, hends⟩ := (hread.reads _ _ _).1 hfound
    have hstands : Stands keyword form (a ++ (w ++ t) ++ s)
        ⟨byteLength a, byteLength (a ++ (w ++ u)), v⟩ := by
      refine .intro ?_ rfl rfl hbefore hsame hform hends
      rw [← hu]
      simp only [List.append_assoc]
    rcases h _ hstands with hstop | hstart
    · -- The construct ends in the first part, and there the reader takes it, too.
      obtain ⟨t', rfl⟩ : u <+: t := by
        refine prefix_of_byteLength_le hu.symm ?_
        simp only [byteLength_append] at hstop
        omega
      rw [List.append_assoc, List.append_cancel_left_eq] at hu
      rw [← hu] at hends ⊢
      rw [(hread.reads _ _ _).2 ⟨u, rfl, hform, hends.of_extend⟩]
    · have hpos := byteLength_pos (ne_nil_of_sameLetters hsame)
      simp only [byteLength_append] at hstart
      omega
  | none =>
    cases hfound' : read? t with
    | none => rfl
    | some found =>
      obtain ⟨v, rest⟩ := found
      obtain ⟨u, rfl, hform, hends⟩ := (hread.reads _ _ _).1 hfound'
      rw [← List.append_assoc] at hp
      rw [List.append_assoc, (hread.reads _ _ _).2 ⟨u, rfl, hform, hends.extend hp s⟩] at hfound
      cases hfound

end stands

/-! ## What is found -/

namespace Leftmost

variable {stands : Span α → Prop} {i : Nat} {xs : List (Span α)} {x y : Span α}

/-- What is picked stands in the text. -/
theorem stands_of_mem (h : Leftmost stands i xs) (hx : x ∈ xs) : stands x := by
  induction h with
  | done => cases hx
  | next here _ _ _ ih =>
    rcases List.mem_cons.1 hx with rfl | hx
    · exact here
    · exact ih hx

/-- What stands in the text begins in one of those that are picked. -/
theorem exists_mem (h : Leftmost stands i xs) (hy : stands y) (hi : i ≤ y.start) :
    ∃ x ∈ xs, x.start ≤ y.start ∧ y.start < x.stop := by
  induction h with
  | done earlier => exact absurd (earlier y hy) (Nat.not_lt.2 hi)
  | @next i x xs here behind first _ ih =>
    rcases Nat.lt_or_ge y.start x.stop with hlt | hge
    · exact ⟨x, List.mem_cons_self, first y hy hi, hlt⟩
    · obtain ⟨x', hx', hcover⟩ := ih hge
      exact ⟨x', List.mem_cons_of_mem x hx', hcover⟩

end Leftmost

/-- The places of what is found in a text of two parts are those in the first part and, behind it,
those in the second. -/
theorem map_span_occurrences_append {keyword : Keyword}
    {reader : List Char → Option α × List Char} {p s : List Char}
    (hword : IsWord keyword.letters) (hapart : Apart keyword reader p s) (hb : Breaks p s) :
    ((start (p ++ s)).occurrences keyword reader).map Occurrence.span =
      ((start p).occurrences keyword reader).map Occurrence.span ++
        (((start s).occurrences keyword reader).map Occurrence.span).map
          (·.shift (byteLength p)) := by
  rw [occurrences_start_append hword hapart hb, List.map_append, List.map_map, List.map_map,
    List.map_map]
  congr 2
  funext o
  simp [Occurrence.shift, Occurrence.span, Span.shift, Cursor.shift, offset]

end SchemaDiagram
