import SchemaDiagram.Proofs.Schema.Outline
import SchemaDiagram.Schema.Edit

/-!
# Lines that refer to a table

The lines of a text that begin like a reference and name a table are dropped one by one, so that a
line in between can be left out beforehand (`dropReferences_line`). No such line declares a column,
wherever it stands (`ofLine?_of_isReferenceTo`).
-/

namespace SchemaDiagram.SchemaText

open Character

variable {name p l s : List Char}

/-! ## Lines with their breaks -/

/-- A text that is not empty has a line. -/
theorem brokenLines_ne_nil (hs : s ≠ []) : brokenLines s ≠ [] := by
  cases s with
  | nil => exact absurd rfl hs
  | cons c s =>
    unfold brokenLines
    split
    · exact List.cons_ne_nil _ _
    · split <;> exact List.cons_ne_nil _ _

/-- A break divides a text into the lines up to it and those behind it. -/
theorem brokenLines_append_break (p s : List Char) :
    brokenLines (p ++ '\n' :: s) = brokenLines (p ++ ['\n']) ++ brokenLines s := by
  induction p with
  | nil => rfl
  | cons c p ih =>
    by_cases hc : c = '\n'
    · subst hc
      simp only [List.cons_append, brokenLines, if_true, ih]
    · have hne : brokenLines (p ++ ['\n']) ≠ [] := brokenLines_ne_nil (by simp)
      obtain ⟨first, others, hlines⟩ := List.exists_cons_of_ne_nil hne
      simp only [List.cons_append, brokenLines, if_neg hc, ih, hlines]

/-- A text that has at most one break, at its end, is a single line. -/
theorem brokenLines_single (hne : l ≠ []) (hbreak : '\n' ∉ l.dropLast) : brokenLines l = [l] := by
  induction l with
  | nil => exact absurd rfl hne
  | cons c l ih =>
    cases l with
    | nil =>
      unfold brokenLines
      split
      · next hc => rw [hc]; rfl
      · rfl
    | cons d l =>
      rw [List.dropLast_cons_cons, List.mem_cons, not_or] at hbreak
      have hline := ih (List.cons_ne_nil d l) hbreak.2
      rw [brokenLines, if_neg (Ne.symm hbreak.1), hline]

/-- A line begins behind the text, which is empty or ends with a line break. -/
def LineBehind (p : List Char) : Prop :=
  p.getLast?.all (· == '\n') = true

/-- A line begins behind a text if one begins behind its last part. -/
theorem lineBehind_append {m : List Char} (hm : m ≠ []) : LineBehind (p ++ m) ↔ LineBehind m := by
  unfold LineBehind
  rw [List.getLast?_append_of_ne_nil _ hm]

/-- The text `l` is a line in front of `s`. -/
structure IsLine (l s : List Char) : Prop where
  /-- There is something on it. -/
  nonempty : l ≠ []
  /-- No line break comes before its end. -/
  single : '\n' ∉ l.dropLast
  /-- It ends with a line break, or with the text. -/
  ended : l.getLast? = some '\n' ∨ s = []

/-- The lines of a text behind others come behind those. -/
theorem brokenLines_append (hp : LineBehind p) (s : List Char) :
    brokenLines (p ++ s) = brokenLines p ++ brokenLines s := by
  induction p using List.reverseRecOn with
  | nil => rfl
  | append_singleton p c _ =>
    obtain rfl : c = '\n' := by simpa [LineBehind] using hp
    rw [List.append_assoc]
    exact brokenLines_append_break p s

/-- What comes behind a line begins a line. -/
theorem IsLine.lineBehind (h : IsLine l s) (hs : s ≠ []) : LineBehind l := by
  unfold LineBehind
  rcases h.ended with hlast | hnil
  · rw [hlast]
    rfl
  · exact absurd hnil hs

/-- A line is the first one of the text that begins with it. -/
theorem IsLine.brokenLines_append (h : IsLine l s) : brokenLines (l ++ s) = l :: brokenLines s := by
  have hline := brokenLines_single h.nonempty h.single
  cases s with
  | nil => rw [List.append_nil, hline]; rfl
  | cons c s =>
    rw [SchemaText.brokenLines_append (h.lineBehind (List.cons_ne_nil c s)), hline]
    rfl

/-- No identifier runs on where a line begins. -/
theorem LineBehind.front (h : LineBehind p) : p.getLast?.any isIdent = false := by
  unfold LineBehind at h
  cases hlast : p.getLast? with
  | none => rfl
  | some c =>
    rw [hlast, Option.all_some, beq_iff_eq] at h
    rw [h]
    rfl

/-- A line does not run into what comes behind it. -/
theorem IsLine.breaks (h : IsLine l s) : Breaks l s := by
  rcases h.ended with hlast | rfl
  · intro hident
    rw [hlast] at hident
    cases hident
  · exact fun _ => stops_nil

/-- A text goes on up to its first line break or to its end. -/
theorem exists_upTo_break (s : List Char) : ∃ l rest, s = l ++ rest ∧ '\n' ∉ l.dropLast ∧
    (l.getLast? = some '\n' ∨ rest = []) := by
  by_cases hmem : '\n' ∈ s
  · obtain ⟨l, rest, rfl, hl⟩ := List.eq_append_cons_of_mem hmem
    exact ⟨l ++ ['\n'], rest, by simp, by simpa using hl, .inl List.getLast?_concat⟩
  · exact ⟨s, [], by simp, fun hmem' => hmem (List.dropLast_subset _ hmem'), .inr rfl⟩

/-- A line between others is one of the lines of the text. -/
theorem mem_brokenLines (hp : LineBehind p) (hl : IsLine l s) :
    l ∈ brokenLines (p ++ (l ++ s)) := by
  rw [brokenLines_append hp, hl.brokenLines_append]
  exact List.mem_append_right _ List.mem_cons_self

/-- The lines of a text are what it has between line breaks. -/
theorem exists_of_mem_brokenLines {t : List Char} (h : l ∈ brokenLines t) :
    ∃ p s, t = p ++ (l ++ s) ∧ LineBehind p ∧ IsLine l s := by
  obtain ⟨first, rest, ht, hsingle, hended⟩ := exists_upTo_break t
  have hne : first ≠ [] := by
    rintro rfl
    obtain rfl := hended.resolve_left (by simp)
    rw [ht] at h
    cases h
  have hfirst : IsLine first rest := ⟨hne, hsingle, hended⟩
  rw [ht, hfirst.brokenLines_append, List.mem_cons] at h
  rcases h with rfl | h
  · exact ⟨[], rest, ht, rfl, hfirst⟩
  · have hlt : rest.length < t.length := by
      have hpos := List.length_pos_iff.2 hne
      rw [ht, List.length_append]
      omega
    obtain ⟨p, s, hrest, hp, hl⟩ := exists_of_mem_brokenLines h
    refine ⟨first ++ p, s, by simp [ht, hrest], ?_, hl⟩
    cases p with
    | nil =>
      rw [List.append_nil]
      exact hfirst.lineBehind (by simp [hrest, hl.nonempty])
    | cons c p => exact (lineBehind_append (List.cons_ne_nil c p)).2 hp
termination_by t.length

/-! ## Dropping lines -/

/-- A line that refers to the table does not matter for what remains. -/
theorem dropReferences_line (hp : LineBehind p) (hl : IsLine l s)
    (hreference : isReferenceTo name l = true) :
    dropReferences name (p ++ (l ++ s)) = dropReferences name (p ++ s) := by
  unfold dropReferences
  rw [brokenLines_append hp, brokenLines_append hp, hl.brokenLines_append, List.filter_append,
    List.filter_append, List.filter_cons_of_neg (by simp [hreference])]

/-- A text none of whose lines refers to the table remains as it is. -/
theorem dropReferences_of_forall (h : ∀ l ∈ brokenLines s, isReferenceTo name l = false) :
    dropReferences name s = s := by
  have hkeep : (brokenLines s).filter (fun l => !isReferenceTo name l) = brokenLines s :=
    List.filter_eq_self.2 fun l hl => by simp [h l hl]
  have hjoin (s : List Char) : (brokenLines s).flatten = s := by
    induction s with
    | nil => rfl
    | cons c s ih =>
      unfold brokenLines
      split
      · next hc => rw [List.flatten_cons, ih, hc]; rfl
      · split
        · next hnil =>
          rw [hnil] at ih
          rw [← ih]
          rfl
        · next hcons =>
          rw [hcons, List.flatten_cons] at ih
          rw [List.flatten_cons, List.cons_append, ih]
  unfold dropReferences
  rw [hkeep, hjoin]

/-! ## Which lines they are -/

/-- The lines that refer to a table: they begin with the keyword and a colon, with blanks at most in
front of each, and behind that they have the name, with a word boundary at both of its ends. -/
inductive RefersTo (name : List Char) : List Char → Prop where
  | intro {gap w gapBehind u v : List Char} (isBlank_gap : ∀ c ∈ gap, isBlank c = true)
    (letters : Text.sameLetters w Reference.keyword.letters = true)
    (isBlank_gapBehind : ∀ c ∈ gapBehind, isBlank c = true)
    (begins : isWordBoundary (':' :: u).getLast? (name ++ v).head? = true)
    (ends : isWordBoundary (':' :: (u ++ name)).getLast? v.head? = true) :
    RefersTo name (gap ++ (w ++ (gapBehind ++ ':' :: (u ++ (name ++ v)))))

/-- A name stands in front of a text as a word if there are boundaries at both of its ends. -/
theorem isWordAt_iff {b : Option Char} : isWordAt name b s = true ↔
    ∃ v, s = name ++ v ∧ isWordBoundary b s.head? = true ∧
      isWordBoundary (name.getLast?.or b) v.head? = true := by
  unfold isWordAt
  constructor
  · intro h
    split at h
    · cases h
    · next v hfront =>
      obtain ⟨hbegins, hends⟩ := Bool.and_eq_true_iff.1 h
      exact ⟨v, (List.isPrefixOf?_eq_some_iff_append_eq.1 hfront).symm, hbegins, hends⟩
  · rintro ⟨v, rfl, hbegins, hends⟩
    have hfront : name.isPrefixOf? (name ++ v) = some v :=
      List.isPrefixOf?_eq_some_iff_append_eq.2 rfl
    rw [hfront]
    exact Bool.and_eq_true_iff.2 ⟨hbegins, hends⟩

/-- A name is looked for as a word at every place of a text. -/
theorem hasWord_iff {b : Option Char} : hasWord name b s = true ↔
    ∃ u v, s = u ++ (name ++ v) ∧ isWordBoundary (u.getLast?.or b) (name ++ v).head? = true ∧
      isWordBoundary ((u ++ name).getLast?.or b) v.head? = true := by
  have hhere {b : Option Char} {s : List Char} : isWordAt name b s = true ↔
      ∃ v, s = name ++ v ∧ isWordBoundary b (name ++ v).head? = true ∧
        isWordBoundary (name.getLast?.or b) v.head? = true := by
    rw [isWordAt_iff]
    refine exists_congr fun v => and_congr_right fun hs => ?_
    rw [hs]
  have hlast (c : Char) (u : List Char) (b : Option Char) :
      (c :: u).getLast?.or b = u.getLast?.or (some c) := by
    cases u with
    | nil => rfl
    | cons d u => simp [List.getLast?_cons]
  induction s generalizing b with
  | nil =>
    rw [hasWord, hhere]
    constructor
    · rintro ⟨v, hv⟩
      exact ⟨[], v, hv⟩
    · rintro ⟨u, v, hsplit, hends⟩
      obtain rfl : u = [] := (List.append_eq_nil_iff.1 hsplit.symm).1
      exact ⟨v, hsplit, hends⟩
  | cons c s ih =>
    have hbehind : hasWord name (some c) s = true ↔ _ := ih
    rw [hasWord, Bool.or_eq_true, hhere, hbehind]
    constructor
    · rintro (⟨v, hv⟩ | ⟨u, v, rfl, hbegins, hends⟩)
      · exact ⟨[], v, hv⟩
      · rw [← hlast c u b] at hbegins
        rw [← hlast c (u ++ name) b] at hends
        exact ⟨c :: u, v, rfl, hbegins, hends⟩
    · rintro ⟨u, v, hsplit, hbegins, hends⟩
      cases u with
      | nil => exact .inl ⟨v, hsplit, hbegins, hends⟩
      | cons d u =>
        obtain ⟨rfl, rfl⟩ := List.cons.inj hsplit
        rw [hlast] at hbegins
        rw [List.cons_append, hlast] at hends
        exact .inr ⟨u, v, rfl, hbegins, hends⟩

/-- The lines that are dropped are those that refer to the table. -/
theorem isReferenceTo_iff : isReferenceTo name l = true ↔ RefersTo name l := by
  have hlast (u : List Char) : (':' :: u).getLast? = u.getLast?.or (some ':') := by
    cases u with
    | nil => rfl
    | cons d u => simp [List.getLast?_cons]
  constructor
  · intro h
    unfold isReferenceTo at h
    split at h
    · cases h
    · next behind hletters =>
      split at h
      · cases h
      · next rest hcolon =>
        obtain ⟨gap, hgap, hl⟩ := Scan.exists_skipBlanks l
        obtain ⟨w, hw, hsame⟩ := Scan.letters?_eq_some_iff.1 hletters
        obtain ⟨gapBehind, hgapBehind, hbehind⟩ := Scan.exists_skipBlanks behind
        obtain ⟨u, v, hrest, hbegins, hends⟩ := hasWord_iff.1 h
        rw [Scan.eq_cons_of_char? hcolon, hrest] at hbehind
        rw [hl, hw, hbehind]
        rw [← hlast] at hbegins hends
        exact .intro hgap hsame hgapBehind hbegins hends
  · rintro ⟨hgap, hsame, hgapBehind, hbegins, hends⟩
    rename_i gap w gapBehind u v
    rw [hlast] at hbegins hends
    have hword : hasWord name (some ':') (u ++ (name ++ v)) = true :=
      hasWord_iff.2 ⟨u, v, rfl, hbegins, hends⟩
    generalize u ++ (name ++ v) = rest at hword
    have hw := Reference.isWord_keyword.isIdentifier hsame
    have hletters : Scan.letters? Reference.keyword.letters (w ++ (gapBehind ++ ':' :: rest)) =
        some (gapBehind ++ ':' :: rest) := Scan.letters?_eq_some_iff.2 ⟨w, rfl, hsame⟩
    have hblanks : Scan.skipBlanks (gap ++ (w ++ (gapBehind ++ ':' :: rest))) =
        w ++ (gapBehind ++ ':' :: rest) := by
      refine Scan.skipBlanks_append hgap ?_
      obtain ⟨c, w, rfl⟩ := List.exists_cons_of_ne_nil hw.1
      exact isBlank_of_isIdent (hw.2 c List.mem_cons_self)
    have hcolon : Scan.skipBlanks (gapBehind ++ ':' :: rest) = ':' :: rest :=
      Scan.skipBlanks_append hgapBehind rfl
    unfold isReferenceTo
    rw [hblanks, hletters]
    simp only [hcolon, Scan.char?_self]
    exact hword

/-! ## No columns -/

/-- A line that refers to a table declares no column. -/
theorem ofLine?_of_isReferenceTo (h : isReferenceTo name l = true) : Column.ofLine? l = none := by
  obtain ⟨ha, hsame, hb, -, -⟩ := isReferenceTo_iff.1 h
  rename_i a w b u v
  generalize u ++ (name ++ v) = rest
  have hident := Scan.isIdent_of_sameLetters Reference.isWord_keyword.2 hsame
  have hne : w ≠ [] := by
    rw [← List.length_pos_iff, length_eq_of_sameLetters hsame]
    decide
  obtain ⟨c, v, rfl⟩ := List.exists_cons_of_ne_nil hne
  have hhead : (c :: v ++ b ++ [':']).head?.any isBlank = false :=
    isBlank_of_isIdent (hident c List.mem_cons_self)
  have hlast : (c :: v ++ b ++ [':']).getLast?.any isBlank = false := by
    rw [List.getLast?_concat]
    rfl
  obtain ⟨t, ht⟩ := Text.exists_trim_append hhead hlast rest
  have htrim : Text.trim (a ++ (c :: v ++ (b ++ ':' :: rest))) = c :: v ++ (b ++ ':' :: t) := by
    rw [Text.trim_blanks_append ha]
    simpa using ht
  have hstops : Stops (b ++ ':' :: t) := by
    cases b with
    | nil => rfl
    | cons d b => exact stops_cons.2 (isIdent_of_isBlank (hb d List.mem_cons_self))
  -- What comes behind the keyword and blanks is a colon and no type.
  have htype : (Scan.blanks? (b ++ ':' :: t)).bind Scan.ident? = none := by
    cases b with
    | nil => rfl
    | cons d b =>
      have hskip : Scan.skipBlanks (b ++ ':' :: t) = ':' :: t := by
        unfold Scan.skipBlanks
        rw [List.dropWhile_append_of_pos fun x hx => hb x (List.mem_cons_of_mem d hx)]
        rfl
      rw [List.cons_append, Scan.blanks?_cons (hb d List.mem_cons_self), hskip]
      rfl
  unfold Column.ofLine?
  simp only [htrim, Option.bind_eq_bind]
  rw [Scan.ident?_append ⟨hne, hident⟩ hstops]
  cases hblanks : Scan.blanks? (b ++ ':' :: t) with
  | none => simp [hblanks]
  | some behind =>
    rw [hblanks, Option.bind_some] at htype
    simp [hblanks, htype]

end SchemaDiagram.SchemaText
