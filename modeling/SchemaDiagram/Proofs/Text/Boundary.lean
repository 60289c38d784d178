import SchemaDiagram.Proofs.Text.Search

/-!
# Reading up to a boundary

Two parts of a text are `Apart` for a reader when behind no keyword of the first part it looks into
the second one. If no identifier runs across either, then the constructs of the whole text are those
of the first part followed by those of the second (`constructs_append_of_apart`), and they stand
where they stand in the two parts (`occurrences_start_append`).
-/

namespace SchemaDiagram

open Character

variable {α : Type} {keyword : Keyword} {reader : List Char → Option α × List Char}

/-- Behind no keyword of the first part of a text does the reader look into the second part. -/
def Apart (keyword : Keyword) (reader : List Char → Option α × List Char) (p s : List Char) :
    Prop :=
  ∀ a w t, p = a ++ (w ++ t) → a.getLast?.any isIdent = false →
    Text.sameLetters w keyword.letters = true →
      reader (t ++ s) = ((reader t).1, (reader t).2 ++ s)

/-! ## Keywords in two parts -/

namespace Scan

variable {word p s : List Char}

/-- Across a break between identifiers no keyword is read, and none is continued. -/
theorem isSome_keyword?_append (hword : IsWord word) (hne : p ≠ []) (hb : Breaks p s) :
    (keyword? word (p ++ s)).isSome = (keyword? word p).isSome := by
  rw [Bool.eq_iff_iff, Option.isSome_iff_exists, Option.isSome_iff_exists]
  constructor
  · rintro ⟨rest, h⟩
    obtain ⟨w, hw, hsame, hstop⟩ := keyword?_eq_some_iff.1 h
    have hident := isIdent_of_sameLetters hword.2 hsame
    -- The keyword ends within the first part, or it reaches over the break.
    rcases List.append_eq_append_iff.1 hw with ⟨x, rfl, hs⟩ | ⟨y, rfl, hrest⟩
    · cases x with
      | nil =>
        rw [List.append_nil] at hsame
        exact ⟨[], keyword?_eq_some_iff.2 ⟨p, (List.append_nil p).symm, hsame, stops_nil⟩⟩
      | cons c x =>
        have hlast : p.getLast?.any isIdent = true := by
          rw [List.getLast?_eq_some_getLast hne]
          exact hident _ (List.mem_append_left _ (List.getLast_mem hne))
        have hstops := hb hlast
        have hc : isIdent c = true := hident c (by simp)
        rw [hs, List.cons_append, stops_cons, hc] at hstops
        cases hstops
    · refine ⟨y, keyword?_eq_some_iff.2 ⟨w, rfl, hsame, ?_⟩⟩
      cases y with
      | nil => exact stops_nil
      | cons c y =>
        rw [hrest] at hstop
        exact stops_cons.2 (stops_cons.1 hstop)
  · rintro ⟨rest, h⟩
    obtain ⟨w, rfl, hsame, hstop⟩ := keyword?_eq_some_iff.1 h
    have hw : IsIdentifier w := hword.isIdentifier hsame
    refine ⟨rest ++ s, keyword?_eq_some_iff.2 ⟨w, List.append_assoc _ _ _, hsame, ?_⟩⟩
    exact hb.stops_append hw hstop

end Scan

namespace Cursor

variable {word p s : List Char}

/-- The first keyword of a text stands in its first part, or else it is the first one of the second
part. -/
theorem keywordIndex?_append_of_breaks (hword : IsWord word) (hb : Breaks p s) (b : Option Char) :
    keywordIndex? word b (p ++ s) =
      (keywordIndex? word b p).or ((keywordIndex? word (p.getLast?.or b) s).map (· + p.length)) := by
  induction p generalizing b with
  | nil => simp [keywordIndex?]
  | cons c p ih =>
    have hat : isKeywordAt word b (c :: (p ++ s)) = isKeywordAt word b (c :: p) := by
      unfold isKeywordAt
      rw [← List.cons_append, Scan.isSome_keyword?_append hword (List.cons_ne_nil c p) hb]
    have hlast : (c :: p).getLast?.or b = p.getLast?.or (some c) := by
      cases p with
      | nil => rfl
      | cons d p => simp [List.getLast?_cons]
    rw [List.cons_append, keywordIndex?, hat, keywordIndex?, hlast]
    split
    · rfl
    · rw [ih hb.tail, Option.map_or, Option.map_map]
      congr 2

/-- The search ends within the text. -/
theorem keywordIndex?_add_length_le {b : Option Char} {n : Nat}
    (h : keywordIndex? word b p = some n) : n + word.length ≤ p.length := by
  obtain ⟨a, w, t, rfl, rfl, -, hsame, -⟩ := exists_of_keywordIndex? h
  have hlen := length_eq_of_sameLetters hsame
  simp only [List.length_append]
  omega

/-! ## Moves across the boundary -/

/-- The cursor in a text that goes on with `s`. -/
def extend (c : Cursor) (s : List Char) : Cursor :=
  ⟨c.passed, c.ahead ++ s⟩

/-- The cursor in a text with `p` in front. -/
def shift (c : Cursor) (p : List Char) : Cursor :=
  ⟨c.passed ++ p.reverse, c.ahead⟩

/-- A move stays in the text. -/
@[simp]
theorem text_advance (c : Cursor) (n : Nat) : (c.advance n).text = c.text := by
  simp [text, advance]

/-- A text has one end. -/
@[simp]
theorem toEnd_advance (c : Cursor) (n : Nat) : (c.advance n).toEnd = c.toEnd := by
  simp only [toEnd, advance, ← List.append_assoc, ← List.reverse_append, List.take_length,
    List.take_append_drop, List.drop_length]

/-- Within a text a cursor moves as if the text ended there. -/
theorem advance_extend {c : Cursor} {n : Nat} (hn : n ≤ c.ahead.length) (s : List Char) :
    (c.extend s).advance n = (c.advance n).extend s := by
  simp only [advance, extend, List.take_append_of_le_length hn, List.drop_append_of_le_length hn]

/-- Beyond a text a cursor moves from its end. -/
theorem advance_extend_add (c : Cursor) (s : List Char) (n : Nat) :
    (c.extend s).advance (n + c.ahead.length) = (c.toEnd.extend s).advance n := by
  have htake : (c.ahead ++ s).take (n + c.ahead.length) = c.ahead ++ s.take n := by
    rw [Nat.add_comm, List.take_length_add_append]
  have hdrop : (c.ahead ++ s).drop (n + c.ahead.length) = s.drop n := by
    rw [Nat.add_comm, List.drop_length_add_append]
  simp only [advance, extend, toEnd, htake, hdrop]
  simp

/-- A reader that leaves what the text goes on with moves the cursor as before. -/
theorem moveTo_extend (c : Cursor) (remaining s : List Char) :
    (c.extend s).moveTo (remaining ++ s) = (c.moveTo remaining).extend s := by
  have hmove : (c.ahead ++ s).length - (remaining ++ s).length =
      c.ahead.length - remaining.length := by
    simp only [List.length_append]
    omega
  show (c.extend s).advance ((c.ahead ++ s).length - _) = _
  rw [hmove]
  exact advance_extend (Nat.sub_le _ _) s

/-- A cursor moves in the same way whatever comes before the text. -/
theorem advance_shift (c : Cursor) (p : List Char) (n : Nat) :
    (c.shift p).advance n = (c.advance n).shift p := by
  simp [advance, shift]

/-- The search for a keyword that does not find one in the text goes on from its end. -/
theorem keywordIndex?_extend (hword : IsWord word) {c : Cursor} (hb : Breaks c.ahead s) :
    keywordIndex? word (c.extend s).passed.head? (c.extend s).ahead =
      (keywordIndex? word c.passed.head? c.ahead).or
        ((keywordIndex? word c.toEnd.passed.head? s).map (· + c.ahead.length)) := by
  have hlast : c.toEnd.passed.head? = c.ahead.getLast?.or c.passed.head? := by
    simp [toEnd, advance, List.head?_append, List.head?_reverse]
  rw [hlast]
  exact keywordIndex?_append_of_breaks hword hb _

end Cursor

/-! ## Constructs in two parts -/

/-- The occurrence in a text that goes on with `s`. -/
def Occurrence.extend (o : Occurrence α) (s : List Char) : Occurrence α :=
  ⟨o.start.extend s, o.stop.extend s, o.value⟩

/-- The occurrence in a text with `p` in front. -/
def Occurrence.shift (o : Occurrence α) (p : List Char) : Occurrence α :=
  ⟨o.start.shift p, o.stop.shift p, o.value⟩

section constructs

variable {c : Cursor} {p s : List Char}

/-- Behind a keyword of the first part of a text the reader does not look into the second part. -/
theorem Apart.reader_ahead (h : Apart keyword reader c.text s) {n : Nat}
    (hn : Cursor.keywordIndex? keyword.letters c.passed.head? c.ahead = some n) :
    let t := (c.advance (n + keyword.letters.length)).ahead
    reader (t ++ s) = ((reader t).1, (reader t).2 ++ s) := by
  obtain ⟨a, w, t, hahead, rfl, hbefore, hsame, -⟩ := Cursor.exists_of_keywordIndex? hn
  have hlen := length_eq_of_sameLetters hsame
  have ht : (c.advance (a.length + keyword.letters.length)).ahead = t := by
    simp [Cursor.advance, hahead, ← hlen]
  simp only [ht]
  refine h (c.passed.reverse ++ a) w t ?_ ?_ hsame
  · simp [Cursor.text, hahead]
  · simpa using hbefore

/-- The constructs ahead in the first part of a text are those ahead in that part alone, and then
come those of the second part. -/
theorem Cursor.occurrences_extend (hword : IsWord keyword.letters)
    (hapart : Apart keyword reader c.text s) (hb : Breaks c.ahead s) :
    (c.extend s).occurrences keyword reader =
      (c.occurrences keyword reader).map (·.extend s) ++
        (c.toEnd.extend s).occurrences keyword reader := by
  -- If a keyword stands in the first part, its reader stops there, too, and the search goes on from
  -- that place.
  induction c using search_induction keyword reader with
  | done c hi =>
    have hend : c.toEnd.ahead = [] := by simp [toEnd, advance]
    have hahead : (c.toEnd.extend s).ahead = s := congrArg (· ++ s) hend
    have hpassed : (c.toEnd.extend s).passed = c.toEnd.passed := rfl
    rw [occurrences_eq (c.extend s), occurrences_eq c, keywordIndex?_extend hword hb, hi,
      occurrences_eq (c.toEnd.extend s), hahead, hpassed]
    cases keywordIndex? keyword.letters c.toEnd.passed.head? s with
    | none => rfl
    | some m =>
      have hmove : m + c.ahead.length + keyword.letters.length =
          m + keyword.letters.length + c.ahead.length := by omega
      simp only [Option.none_or, Option.map_some, hmove, advance_extend_add, List.map_nil,
        List.nil_append]
  | found c i hi ih =>
    have hle := keywordIndex?_add_length_le hi
    have hread := hapart.reader_ahead hi
    rw [occurrences_eq (c.extend s), occurrences_eq c, keywordIndex?_extend hword hb, hi]
    simp only [Option.some_or, advance_extend (Nat.le_of_add_right_le hle), advance_extend hle]
    generalize hbehind : c.advance (i + keyword.letters.length) = behind at hread ih ⊢
    have hahead : (behind.extend s).ahead = behind.ahead ++ s := rfl
    simp only [hahead, hread, moveTo_extend]
    set next := behind.moveTo (reader behind.ahead).2 with hnext
    have htext : next.text = c.text := by
      rw [hnext, moveTo, text_advance, ← hbehind, text_advance]
    have hrest : Breaks next.ahead s := by
      have hsuffix : next.ahead <:+ c.ahead := by
        rw [hnext, moveTo, ← hbehind]
        exact (List.drop_suffix _ _).trans (List.drop_suffix _ _)
      obtain ⟨q, hq⟩ := hsuffix
      rw [← hq] at hb
      exact hb.of_append
    have hend : next.toEnd = c.toEnd := by
      rw [hnext, moveTo, toEnd_advance, ← hbehind, toEnd_advance]
    rw [ih (htext ▸ hapart) hrest, hend]
    simp [Occurrence.extend]

/-- Constructs stand behind whatever comes before the text, if no identifier runs into it. -/
theorem Cursor.occurrences_shift (hword : IsWord keyword.letters)
    (hb : c.passed = [] → Breaks p c.ahead) :
    (c.shift p).occurrences keyword reader = (c.occurrences keyword reader).map (·.shift p) := by
  -- Only in front of the text does the search look at what comes before it.
  have hindex {c : Cursor} (hb : c.passed = [] → Breaks p c.ahead) :
      keywordIndex? keyword.letters (c.shift p).passed.head? c.ahead =
        keywordIndex? keyword.letters c.passed.head? c.ahead := by
    obtain ⟨passed, ahead⟩ := c
    cases passed with
    | cons x passed => rfl
    | nil =>
      have hlast : (shift ⟨[], ahead⟩ p).passed.head? = p.getLast? := List.head?_reverse
      rw [hlast]
      by_cases hident : p.getLast?.any isIdent = true
      · have hstops : Stops ahead := hb rfl hident
        cases ahead with
        | nil => rfl
        | cons x ahead =>
          have hx := stops_cons.1 hstops
          rw [keywordIndex?_cons hword hx, keywordIndex?_cons hword hx]
      · exact keywordIndex?_congr (by simpa using hident) ahead
  induction c using search_induction keyword reader with
  | done c hi =>
    have hahead : (c.shift p).ahead = c.ahead := rfl
    rw [occurrences_eq (c.shift p), occurrences_eq c, hahead, hindex hb, hi]
    rfl
  | found c i hi ih =>
    have hahead : (c.shift p).ahead = c.ahead := rfl
    rw [occurrences_eq (c.shift p), occurrences_eq c, hahead, hindex hb, hi]
    simp only [advance_shift]
    generalize hbehind : c.advance (i + keyword.letters.length) = behind at ih ⊢
    have hmove (r : List Char) : (behind.shift p).moveTo r = (behind.moveTo r).shift p :=
      advance_shift _ _ _
    have hahead : (behind.shift p).ahead = behind.ahead := rfl
    simp only [hahead, hmove]
    have hpassed : (behind.moveTo (reader behind.ahead).2).passed ≠ [] := by
      intro hnil
      have htake : (c.ahead.take (i + keyword.letters.length)).reverse = [] := by
        rw [moveTo, ← hbehind] at hnil
        simp only [advance, List.append_eq_nil_iff] at hnil
        exact hnil.2.1
      have hlt := keywordIndex?_lt_length hi
      have hpos := List.length_pos_iff.2 keyword.nonempty
      rw [List.reverse_eq_nil_iff, List.take_eq_nil_iff] at htake
      rcases htake with hzero | hnil
      · omega
      · rw [hnil] at hlt
        exact absurd hlt (Nat.not_lt_zero _)
    rw [ih fun h => absurd h hpassed]
    simp [Occurrence.shift]

/-- The constructs of a text in two parts stand where they stand in the parts. -/
theorem Cursor.occurrences_start_append (hword : IsWord keyword.letters)
    (hapart : Apart keyword reader p s) (hb : Breaks p s) :
    (start (p ++ s)).occurrences keyword reader =
      ((start p).occurrences keyword reader).map (·.extend s) ++
        ((start s).occurrences keyword reader).map (·.shift p) := by
  have hextend := occurrences_extend (c := start p) hword (by simpa [text, start] using hapart) hb
  have hshift : ((start s).shift p).occurrences keyword reader =
      ((start s).occurrences keyword reader).map (·.shift p) :=
    occurrences_shift hword fun _ => hb
  have hend : (start p).toEnd.extend s = (start s).shift p := by
    simp [toEnd, advance, extend, shift, start]
  rw [← hshift, ← hend]
  exact hextend

/-- The constructs of a text in two parts are those of the first part and those of the second. -/
theorem constructs_append_of_apart (hword : IsWord keyword.letters)
    (hapart : Apart keyword reader p s) (hb : Breaks p s) :
    constructs keyword reader (p ++ s) =
      constructs keyword reader p ++ constructs keyword reader s := by
  unfold constructs
  rw [Cursor.occurrences_start_append hword hapart hb, List.map_append, List.map_map, List.map_map]
  rfl

/-- Whether two parts are apart is a matter of the places where the keyword stands. -/
theorem apart_iff (hword : IsWord keyword.letters) : Apart keyword reader p s ↔
    ∀ n < p.length, (p.take n).getLast?.any isIdent = false →
      Text.sameLetters ((p.drop n).take keyword.letters.length) keyword.letters = true →
        reader (p.drop (n + keyword.letters.length) ++ s) =
          ((reader (p.drop (n + keyword.letters.length))).1,
            (reader (p.drop (n + keyword.letters.length))).2 ++ s) := by
  constructor
  · intro h n _ hfront hsame
    refine h (p.take n) ((p.drop n).take keyword.letters.length) _ ?_ hfront hsame
    rw [← List.drop_drop, List.take_append_drop, List.take_append_drop]
  · rintro h a w t rfl hfront hsame
    have hlen := length_eq_of_sameLetters hsame
    have hpos := List.length_pos_iff.2 hword.1
    have hread := h a.length (by simp; omega)
    rw [List.take_left, List.drop_left, ← hlen, List.take_left, ← List.drop_drop, List.drop_left,
      List.drop_left] at hread
    exact hread hfront hsame

end constructs

/-! ## Readers that stop at a boundary -/

namespace Scan

variable {read? : List Char → Option (α × List Char)} {c : Char} {p s : List Char}

/-- Whatever comes before `s`, the reader does not look into `s`. -/
def Confined (read? : List Char → Option (α × List Char)) (s : List Char) : Prop :=
  ∀ p, read? (p ++ s) = (read? p).map fun (value, rest) => (value, rest ++ s)

/-- A reader that is confined to what comes before `s` keeps any first part apart from `s`. -/
theorem Confined.apart (h : Confined read? s) : Apart keyword (orStay read?) p s := by
  intro a w t _ _ _
  unfold orStay
  rw [h t]
  cases read? t <;> rfl

/-- Behind blanks a reader is still confined if it reads nothing at the end of a text and nothing
behind the blanks of `s`. -/
theorem Confined.skipBlanks (h : Confined read? s) (hnil : read? [] = none)
    (hs : read? (Scan.skipBlanks s) = none) : Confined (fun p => read? (Scan.skipBlanks p)) s := by
  intro p
  show read? (Scan.skipBlanks (p ++ s)) = (read? (Scan.skipBlanks p)).map _
  induction p with
  | nil =>
    have hend : read? (Scan.skipBlanks []) = none := hnil
    rw [List.nil_append, hs, hend]
    rfl
  | cons x p ih =>
    cases hx : isBlank x with
    | true => rwa [List.cons_append, skipBlanks_cons hx, skipBlanks_cons hx]
    | false =>
      rw [List.cons_append, skipBlanks_of_not hx, skipBlanks_of_not hx]
      exact h (x :: p)

/-- One reader behind another is confined if both are. -/
theorem Confined.bind {β : Type} {next? : α → List Char → Option (β × List Char)}
    (h : Confined read? s) (hnext : ∀ value, Confined (next? value) s) :
    Confined (fun p => (read? p).bind fun (value, rest) => next? value rest) s := by
  intro p
  simp only [h p, Option.bind_map]
  cases hp : read? p with
  | none => rfl
  | some found => exact hnext found.1 found.2

/-- A single character is read before `s` unless `s` begins with it. -/
theorem char?_append (hs : s.head? ≠ some c) (p : List Char) :
    char? c (p ++ s) = (char? c p).map (· ++ s) := by
  cases p with
  | nil => rw [List.nil_append, char?_of_ne hs]; rfl
  | cons x p =>
    rw [List.cons_append, char?, char?]
    split <;> rfl

/-- The same behind blanks, unless the character stands behind the blanks of `s`. -/
theorem char?_skipBlanks_append (hs : (skipBlanks s).head? ≠ some c) (p : List Char) :
    char? c (skipBlanks (p ++ s)) = (char? c (skipBlanks p)).map (· ++ s) := by
  induction p with
  | nil => exact char?_of_ne hs
  | cons x p ih =>
    cases hx : isBlank x with
    | true => rwa [List.cons_append, skipBlanks_cons hx, skipBlanks_cons hx]
    | false =>
      rw [List.cons_append, skipBlanks_of_not hx, skipBlanks_of_not hx, char?, char?]
      split <;> rfl

/-- An identifier is read before a text that stops identifiers. -/
theorem confined_ident? (hs : Stops s) : Confined ident? s := by
  intro p
  obtain ⟨htake, hdrop⟩ := takeWhile_append_of_head? hs p
  unfold ident?
  rw [htake, hdrop]
  cases p.takeWhile isIdent <;> rfl

/-- A keyword is read in front of a text that stops identifiers as at the end of a text. -/
theorem keyword?_append_of_stops {word x : List Char} (hword : IsWord word) (hx : Stops x)
    (s : List Char) : keyword? word (s ++ x) = (keyword? word s).map (· ++ x) := by
  ext rest
  rw [Option.map_eq_some_iff, keyword?_eq_some_iff]
  constructor
  · rintro ⟨w, hw, hsame, hstops⟩
    have hident := isIdent_of_sameLetters hword.2 hsame
    -- The keyword cannot reach into the second text, which begins outside identifiers.
    rcases List.append_eq_append_iff.1 hw with ⟨v, rfl, hv⟩ | ⟨t, rfl, ht⟩
    · cases v with
      | nil =>
        rw [List.append_nil] at hsame
        exact ⟨[], keyword?_eq_some_iff.2 ⟨s, by simp, hsame, stops_nil⟩, by simpa using hv⟩
      | cons c v =>
        rw [hv, List.cons_append, stops_cons, hident c (by simp)] at hx
        cases hx
    · refine ⟨t, keyword?_eq_some_iff.2 ⟨w, rfl, hsame, ?_⟩, ht.symm⟩
      cases t with
      | nil => exact stops_nil
      | cons c t => simpa [ht] using hstops
  · rintro ⟨t, ht, rfl⟩
    obtain ⟨w, rfl, hsame, hstops⟩ := keyword?_eq_some_iff.1 ht
    refine ⟨w, List.append_assoc _ _ _, hsame, ?_⟩
    cases t with
    | nil => exact hx
    | cons c t => exact hstops

/-- The text up to a character is not found where the character is not. -/
theorem until?_of_not_mem (hs : c ∉ s) : until? [c] s = none := by
  induction s with
  | nil => rfl
  | cons x s ih =>
    rw [List.mem_cons, not_or] at hs
    have hx : [c].isPrefixOf? (x :: s) = none := by simp [List.isPrefixOf?, hs.1]
    unfold until?
    rw [hx]
    simp only
    rw [ih hs.2]
    rfl

/-- The text up to a character is read before `s` if the character is not in `s`. -/
theorem confined_until? (hs : c ∉ s) : Confined (until? [c]) s := by
  intro p
  by_cases hp : c ∈ p
  · obtain ⟨a, b, rfl, hnot⟩ := List.eq_append_cons_of_mem hp
    rw [List.append_assoc, List.cons_append, until?_singleton hnot, until?_singleton hnot]
    rfl
  · rw [until?_of_not_mem hp, until?_of_not_mem (by simp [hp, hs])]
    rfl

/-- Up to a stop that is found it makes no difference what comes behind. -/
theorem until?_append_of_some {stop s taken rest : List Char}
    (h : until? stop s = some (taken, rest)) (x : List Char) :
    until? stop (s ++ x) = some (taken, rest ++ x) := by
  induction s generalizing taken with
  | nil =>
    rw [until?, Option.ite_none_right_eq_some] at h
    obtain ⟨hempty, heq⟩ := h
    cases heq
    rw [List.isEmpty_iff.1 hempty]
    cases x <;> rfl
  | cons c s ih =>
    rw [until?] at h
    rw [List.cons_append, until?]
    cases hfront : stop.isPrefixOf? (c :: s) with
    | some remaining =>
      rw [hfront] at h
      cases h
      have heq := List.isPrefixOf?_eq_some_iff_append_eq.1 hfront
      have hlater : stop.isPrefixOf? (c :: (s ++ x)) = some (rest ++ x) := by
        rw [List.isPrefixOf?_eq_some_iff_append_eq, ← List.append_assoc, heq]
        rfl
      rw [hlater]
    | none =>
      rw [hfront] at h
      obtain ⟨⟨taken', rest'⟩, hfound, heq⟩ := Option.map_eq_some_iff.1 h
      cases heq
      -- The stop is in the first part, so at this place it would not reach beyond that.
      have hlater : stop.isPrefixOf? (c :: (s ++ x)) = none := by
        rw [Option.eq_none_iff_forall_ne_some]
        intro remaining hsome
        have heq := List.isPrefixOf?_eq_some_iff_append_eq.1 hsome
        have hlength : stop.length ≤ (c :: s).length := by
          rw [eq_append_of_until? hfound]
          simp only [List.length_cons, List.length_append]
          omega
        obtain ⟨w, hw⟩ := List.prefix_of_prefix_length_le ⟨remaining, heq⟩ ⟨x, rfl⟩ hlength
        rw [List.isPrefixOf?_eq_some_iff_append_eq.2 hw] at hfront
        cases hfront
      rw [hlater, ih hfound]
      rfl

/-- A stop at the end of a text is found there, or earlier. -/
theorem exists_until?_append (stop s : List Char) :
    ∃ taken rest, until? stop (s ++ stop) = some (taken, rest) := by
  induction s with
  | nil =>
    have hself : until? stop stop = some ([], []) := by
      cases stop with
      | nil => rfl
      | cons c stop =>
        have hfront : (c :: stop).isPrefixOf? (c :: stop) = some [] :=
          List.isPrefixOf?_eq_some_iff_append_eq.2 (List.append_nil _)
        rw [until?, hfront]
    exact ⟨[], [], hself⟩
  | cons c s ih =>
    rw [List.cons_append, until?]
    cases stop.isPrefixOf? (c :: (s ++ stop)) with
    | some remaining => exact ⟨[], remaining, rfl⟩
    | none =>
      obtain ⟨taken, rest, h⟩ := ih
      exact ⟨c :: taken, rest, by rw [h]; rfl⟩

end Scan

end SchemaDiagram
