import SchemaDiagram.Proofs.Text.Scan
import SchemaDiagram.Text.Cursor

/-!
# Looking for keywords and for what begins with them

A text is a sequence of characters outside identifiers and of identifiers that stop
(`text_induction`). The search for a keyword passes over all of them but the keyword itself, so it
can be followed piece by piece: over a character outside identifiers (`keywordIndex?_cons`), over an
identifier that is not the keyword (`keywordIndex?_word`), and over any text among whose
`identifiers` the keyword is not (`keywordIndex?_append`).

`constructs` lists what a reader finds behind the keywords of a text, without the places. It depends
only on what comes behind the first keyword (`constructs_congr`), so it passes over whatever the
search passes over.

The search goes on where the reader stopped, and not behind the next piece. What is shown of it from
place to place is shown by `Cursor.search_induction`, and what is shown of the constructs of a text
by `suffix_induction`.
-/

namespace SchemaDiagram

open Character

/-! ## The identifiers of a text -/

/-- The identifiers in a text: its longest runs of identifier characters. -/
def identifiers (s : List Char) : List (List Char) :=
  Text.pieces (fun c => !isIdent c) s

/-- No identifier runs from the first text into the second. -/
def Breaks (p s : List Char) : Prop :=
  p.getLast?.any isIdent = true → Stops s

/-- A text is empty, or begins outside identifiers, or begins with an identifier that stops. -/
@[elab_as_elim]
theorem text_induction {P : List Char → Prop} (nil : P [])
    (cons : ∀ c s, isIdent c = false → P s → P (c :: s))
    (word : ∀ w s, IsIdentifier w → Stops s → P s → P (w ++ s)) (s : List Char) : P s := by
  -- By induction on the length: an identifier at the front is taken whole, up to where it stops.
  induction hn : s.length using Nat.strong_induction_on generalizing s with
  | _ n ih =>
    subst hn
    cases s with
    | nil => exact nil
    | cons c t =>
      by_cases hc : isIdent c = true
      · have hsplit : c :: t = (c :: t).takeWhile isIdent ++ (c :: t).dropWhile isIdent :=
          List.takeWhile_append_dropWhile.symm
        have hne : (c :: t).takeWhile isIdent ≠ [] := by simp [hc]
        have hlt : ((c :: t).dropWhile isIdent).length < (c :: t).length := by
          have := congrArg List.length hsplit
          have := List.length_pos_iff.2 hne
          simp only [List.length_append] at *
          omega
        rw [hsplit]
        refine word _ _ ⟨hne, fun x hx => List.mem_takeWhile_imp hx⟩ ?_ (ih _ hlt _ rfl)
        have hhead := List.head?_dropWhile_not isIdent (c :: t)
        unfold Stops
        cases hd : (c :: t).dropWhile isIdent with
        | nil => rfl
        | cons x r => simpa [hd] using hhead
      · exact cons c t (by simpa using hc) (ih _ (by simp) t rfl)

/-- A reader may stop further back than behind the next identifier, so what is to be shown of a text
may be taken to hold of all that comes behind that. -/
@[elab_as_elim]
theorem suffix_induction {P : List Char → Prop} (nil : P [])
    (cons : ∀ c s, isIdent c = false → (∀ r, r <:+ s → P r) → P (c :: s))
    (word : ∀ w s, IsIdentifier w → Stops s → (∀ r, r <:+ s → P r) → P (w ++ s))
    (s : List Char) : P s := by
  suffices hall : ∀ r, r <:+ s → P r from hall s (List.suffix_refl s)
  induction s using text_induction with
  | nil =>
    intro r hr
    rw [List.suffix_nil.1 hr]
    exact nil
  | cons c s hc ih =>
    intro r hr
    rcases List.suffix_cons_iff.1 hr with rfl | hr
    · exact cons c s hc ih
    · exact ih r hr
  | word w s hw hs ih =>
    rintro r ⟨q, hq⟩
    rcases List.append_eq_append_iff.1 hq with ⟨v, rfl, rfl⟩ | ⟨v, -, rfl⟩
    · -- The last part of an identifier is one, or empty.
      by_cases hv : v = []
      · rw [hv]
        exact ih s (List.suffix_refl s)
      · exact word v s ⟨hv, fun c hc => hw.2 c (List.mem_append_right _ hc)⟩ hs ih
    · exact ih r (List.suffix_append v r)

/-- A text stops identifiers behind any text if it does so by itself. -/
theorem Breaks.of_stops {p s : List Char} (hs : Stops s) : Breaks p s :=
  fun _ => hs

/-- A text at whose end no identifier can go on breaks identifiers. -/
theorem Breaks.of_last {p s : List Char} (h : p.getLast?.any isIdent = false) : Breaks p s := by
  intro hl
  rw [h] at hl
  cases hl

/-- What breaks identifiers behind its first character breaks them. -/
theorem Breaks.tail {c : Char} {p s : List Char} (h : Breaks (c :: p) s) : Breaks p s := by
  intro hl
  refine h ?_
  cases p with
  | nil => simp at hl
  | cons d p => rwa [List.getLast?_cons_cons]

/-- What breaks identifiers behind a first part breaks them. -/
theorem Breaks.of_append {w p s : List Char} (h : Breaks (w ++ p) s) : Breaks p s := by
  induction w with
  | nil => exact h
  | cons c w ih => exact ih h.tail

/-- An identifier stops where the text behind it does, or where a break comes at once. -/
theorem Breaks.stops_append {w p s : List Char} (hw : IsIdentifier w) (hp : Stops p)
    (h : Breaks (w ++ p) s) : Stops (p ++ s) := by
  cases p with
  | nil =>
    refine h ?_
    rw [List.append_nil, List.getLast?_eq_some_getLast hw.1]
    exact hw.2 _ (List.getLast_mem hw.1)
  | cons c p => exact hp

/-- The empty text has no identifiers. -/
@[simp]
theorem identifiers_nil : identifiers [] = [] := by
  simp [identifiers, Text.pieces]

/-- A character outside identifiers adds none. -/
theorem identifiers_cons {c : Char} {s : List Char} (hc : isIdent c = false) :
    identifiers (c :: s) = identifiers s := by
  simp [identifiers, Text.pieces, List.splitOnP_cons_eq_if_modifyHead, hc]

/-- An identifier in front of a text is its first one. -/
theorem identifiers_word {w s : List Char} (hw : IsIdentifier w) (hs : Stops s) :
    identifiers (w ++ s) = w :: identifiers s := by
  have hall : ∀ c ∈ w, (!isIdent c) = false := fun c hc => by simp [hw.2 c hc]
  unfold identifiers Text.pieces
  cases s with
  | nil =>
    rw [List.append_nil, List.splitOnP_eq_singleton hall]
    simp [hw.1]
  | cons c s =>
    have hc : (!isIdent c) = true := by simp [stops_cons.1 hs]
    rw [List.splitOnP_append_cons_of_forall_mem hall c hc]
    simp [List.splitOnP_cons_eq_if_modifyHead, hc, hw.1]

/-- The identifiers of two texts that none runs across. -/
theorem identifiers_append {p s : List Char} (h : Breaks p s) :
    identifiers (p ++ s) = identifiers p ++ identifiers s := by
  -- The first text is followed piece by piece; what is left of it still breaks identifiers.
  induction p using text_induction with
  | nil => simp
  | cons c p hc ih =>
    rw [List.cons_append, identifiers_cons hc, identifiers_cons hc, ih h.tail]
  | word w p hw hp ih =>
    rw [List.append_assoc, identifiers_word hw (h.stops_append hw hp), identifiers_word hw hp,
      ih h.of_append, List.cons_append]

/-- A text without identifier characters has no identifiers. -/
theorem identifiers_of_forall {p : List Char} (hp : ∀ c ∈ p, isIdent c = false) :
    identifiers p = [] := by
  induction p with
  | nil => exact identifiers_nil
  | cons c p ih =>
    rw [identifiers_cons (hp c (by simp)), ih fun x hx => hp x (by simp [hx])]

/-- A text without identifier characters breaks identifiers. -/
theorem Breaks.of_forall {p s : List Char} (hp : ∀ c ∈ p, isIdent c = false) : Breaks p s := by
  refine Breaks.of_last ?_
  cases hlast : p.getLast? with
  | none => rfl
  | some c => exact hp c (List.mem_of_getLast? hlast)

/-- Every identifier of a text is one. -/
theorem isIdentifier_of_mem_identifiers {s w : List Char} (h : w ∈ identifiers s) :
    IsIdentifier w := by
  induction s using text_induction with
  | nil => simp at h
  | cons c s hc ih => exact ih (identifiers_cons hc ▸ h)
  | word v s hv hs ih =>
    rw [identifiers_word hv hs, List.mem_cons] at h
    rcases h with rfl | h
    · exact hv
    · exact ih h

/-- The characters of the identifiers of a text are characters of the text. -/
theorem mem_of_mem_identifiers {s w : List Char} (h : w ∈ identifiers s) : ∀ c ∈ w, c ∈ s := by
  intro c hc
  induction s using text_induction with
  | nil => simp at h
  | cons a s ha ih => exact List.mem_cons_of_mem _ (ih (identifiers_cons ha ▸ h))
  | word v s hv hs ih =>
    rw [identifiers_word hv hs, List.mem_cons] at h
    rcases h with rfl | h
    · exact List.mem_append_left _ hc
    · exact List.mem_append_right _ (ih h)

/-! ## The place of a keyword -/

/-- A keyword: one or more letters of ASCII. -/
def IsWord (word : List Char) : Prop :=
  word ≠ [] ∧ ∀ c ∈ word, c.isAlpha = true

/-- A word that is not empty and consists of letters is a keyword. -/
theorem isWord_of_all {word : List Char} (h : (!word.isEmpty && word.all Char.isAlpha) = true) :
    IsWord word := by
  rw [Bool.and_eq_true, List.all_eq_true] at h
  exact ⟨by simpa using h.1, h.2⟩

/-- A keyword begins with a letter. -/
theorem IsWord.head? {word : List Char} (h : IsWord word) :
    word.head?.any Char.isAlpha = true := by
  obtain ⟨c, word, rfl⟩ := List.exists_cons_of_ne_nil h.1
  simpa using h.2 c (by simp)

/-- Texts with the same letters are equally long. -/
theorem length_eq_of_sameLetters {v w : List Char} (h : Text.sameLetters v w = true) :
    v.length = w.length := by
  have hmap : v.map Char.toLower = w.map Char.toLower := by simpa [Text.sameLetters] using h
  simpa using congrArg List.length hmap

/-- What has the letters of a keyword is an identifier. -/
theorem IsWord.isIdentifier {v w : List Char} (hw : IsWord w) (h : Text.sameLetters v w = true) :
    IsIdentifier v := by
  refine ⟨?_, Scan.isIdent_of_sameLetters hw.2 h⟩
  rw [← List.length_pos_iff, length_eq_of_sameLetters h]
  exact List.length_pos_iff.2 hw.1

namespace Cursor

variable {word : List Char}

/-- Of what comes before a text, the search only sees whether an identifier may go on. -/
theorem keywordIndex?_congr {a b : Option Char} (h : a.any isIdent = b.any isIdent)
    (s : List Char) : keywordIndex? word a s = keywordIndex? word b s := by
  cases s with
  | nil => rfl
  | cons c s =>
    unfold keywordIndex? isKeywordAt
    rw [h]

/-- The search passes over a place where the keyword does not stand. -/
theorem keywordIndex?_of_not {b : Option Char} {c : Char} {s : List Char}
    (h : isKeywordAt word b (c :: s) = false) :
    keywordIndex? word b (c :: s) = (keywordIndex? word (some c) s).map (· + 1) := by
  rw [keywordIndex?, h]
  rfl

/-- The search passes over a character outside identifiers. -/
theorem keywordIndex?_cons (hword : IsWord word) {b : Option Char} {c : Char} {s : List Char}
    (hc : isIdent c = false) :
    keywordIndex? word b (c :: s) = (keywordIndex? word none s).map (· + 1) := by
  rw [keywordIndex?_of_not]
  · rw [keywordIndex?_congr (b := none) (by simpa using hc)]
  · unfold isKeywordAt
    rw [Scan.keyword?_of_stops hword.1 hword.2 (by simpa using hc)]
    simp

/-- Inside an identifier the search finds nothing. -/
theorem keywordIndex?_inside (hword : IsWord word) {b : Option Char} {w s : List Char}
    (hb : b.any isIdent = true) (hw : ∀ c ∈ w, isIdent c = true) (hs : Stops s) :
    keywordIndex? word b (w ++ s) = (keywordIndex? word none s).map (· + w.length) := by
  induction w generalizing b with
  | nil =>
    cases s with
    | nil => rfl
    | cons c s =>
      have hc := stops_cons.1 hs
      rw [List.nil_append, keywordIndex?_cons hword hc, keywordIndex?_cons hword hc, Option.map_map]
      rfl
  | cons c w ih =>
    -- The character that comes before is of an identifier, so no whole word begins here.
    rw [List.cons_append, keywordIndex?_of_not (by simp [isKeywordAt, hb]),
      ih (by simpa using hw c (by simp)) fun x hx => hw x (by simp [hx]), Option.map_map]
    congr 1

/-- The search passes over an identifier that is not the keyword. -/
theorem keywordIndex?_word (hword : IsWord word) {w s : List Char}
    (hw : ∀ c ∈ w, isIdent c = true) (hs : Stops s) (h : Text.sameLetters w word = false) :
    keywordIndex? word none (w ++ s) = (keywordIndex? word none s).map (· + w.length) := by
  cases w with
  | nil => simp
  | cons c w =>
    have hnot : isKeywordAt word none (c :: (w ++ s)) = false := by
      unfold isKeywordAt
      rw [← List.cons_append, Scan.keyword?_of_ne hword.2 hw hs h]
      simp
    rw [List.cons_append, keywordIndex?_of_not hnot,
      keywordIndex?_inside hword (by simpa using hw c (by simp)) (fun x hx => hw x (by simp [hx]))
        hs, Option.map_map]
    congr 1

/-- The search finds an identifier that is the keyword. -/
theorem keywordIndex?_self (hword : IsWord word) {w s : List Char}
    (h : Text.sameLetters w word = true) (hs : Stops s) :
    keywordIndex? word none (w ++ s) = some 0 := by
  cases w with
  | nil =>
    have := hword.1
    cases word with
    | nil => exact absurd rfl this
    | cons c word => simp [Text.sameLetters] at h
  | cons c w =>
    have hat : isKeywordAt word none (c :: (w ++ s)) = true := by
      unfold isKeywordAt
      rw [← List.cons_append, Scan.keyword?_append h hs]
      rfl
    rw [List.cons_append, keywordIndex?, hat]
    rfl

/-- The search passes over a text among whose identifiers the keyword is not. -/
theorem keywordIndex?_append (hword : IsWord word) {p s : List Char}
    (h : ∀ w ∈ identifiers p, Text.sameLetters w word = false) (hb : Breaks p s) :
    keywordIndex? word none (p ++ s) = (keywordIndex? word none s).map (· + p.length) := by
  induction p using text_induction with
  | nil => simp
  | cons c p hc ih =>
    rw [List.cons_append, keywordIndex?_cons hword hc,
      ih (by rwa [identifiers_cons hc] at h) hb.tail, Option.map_map]
    congr 1
  | word w p hw hp ih =>
    rw [identifiers_word hw hp] at h
    rw [List.append_assoc, keywordIndex?_word hword hw.2 (hb.stops_append hw hp) (h w (by simp)),
      ih (fun v hv => h v (by simp [hv])) hb.of_append, Option.map_map]
    congr 1
    -- What is left are the two ways to count the places that were passed.
    funext n
    simp only [Function.comp, List.length_append]
    omega

/-- Where a keyword is found, no identifier goes on, and one with its letters stands and stops. -/
theorem exists_of_keywordIndex? {b : Option Char} {s : List Char} {n : Nat}
    (h : keywordIndex? word b s = some n) :
    ∃ a w t, s = a ++ (w ++ t) ∧ a.length = n ∧ (a.getLast?.or b).any isIdent = false ∧
      Text.sameLetters w word = true ∧ Stops t := by
  induction s generalizing b n with
  | nil => cases h
  | cons c s ih =>
    -- The keyword stands either here, or at the place that the search finds further on.
    rw [keywordIndex?] at h
    split at h
    · next hat =>
      cases h
      obtain ⟨hbefore, hsome⟩ := Bool.and_eq_true _ _ ▸ hat
      obtain ⟨t, ht⟩ := Option.isSome_iff_exists.1 hsome
      obtain ⟨w, hw, hsame, hstop⟩ := Scan.keyword?_eq_some_iff.1 ht
      exact ⟨[], w, t, hw, rfl, by simpa using hbefore, hsame, hstop⟩
    · obtain ⟨m, hm, rfl⟩ := Option.map_eq_some_iff.1 h
      obtain ⟨a, w, t, rfl, rfl, hbefore, hsame, hstop⟩ := ih hm
      refine ⟨c :: a, w, t, rfl, rfl, ?_, hsame, hstop⟩
      cases a with
      | nil => exact hbefore
      | cons d a => simpa [List.getLast?_cons_cons, List.getLast?_cons] using hbefore

/-! ## What comes behind a keyword -/

/-- What comes behind the first place in a text where `word` stands as a whole word. -/
def behind? (word s : List Char) : Option (List Char) :=
  (keywordIndex? word none s).map fun n => s.drop (n + word.length)

/-- What is ahead of the cursor behind the next keyword. -/
theorem findKeyword?_start (s : List Char) :
    ((start s).findKeyword? word).map (·.2.ahead) = behind? word s := by
  unfold findKeyword? behind?
  rw [Option.map_map]
  rfl

/-- The search passes over a character outside identifiers. -/
theorem behind?_cons (hword : IsWord word) {c : Char} {s : List Char} (hc : isIdent c = false) :
    behind? word (c :: s) = behind? word s := by
  unfold behind?
  rw [keywordIndex?_cons hword hc, Option.map_map]
  congr 1
  funext n
  simp [Nat.add_right_comm]

/-- The search passes over an identifier that is not the keyword. -/
theorem behind?_word (hword : IsWord word) {w s : List Char}
    (hw : ∀ c ∈ w, isIdent c = true) (hs : Stops s) (h : Text.sameLetters w word = false) :
    behind? word (w ++ s) = behind? word s := by
  unfold behind?
  rw [keywordIndex?_word hword hw hs h, Option.map_map]
  congr 1
  funext n
  simp only [Function.comp]
  rw [show n + w.length + word.length = w.length + (n + word.length) by omega,
    ← List.drop_drop, List.drop_left]

/-- The search passes over a text among whose identifiers the keyword is not. -/
theorem behind?_append (hword : IsWord word) {p s : List Char}
    (h : ∀ w ∈ identifiers p, Text.sameLetters w word = false) (hb : Breaks p s) :
    behind? word (p ++ s) = behind? word s := by
  unfold behind?
  rw [keywordIndex?_append hword h hb, Option.map_map]
  congr 1
  funext n
  simp only [Function.comp]
  rw [show n + p.length + word.length = p.length + (n + word.length) by omega,
    ← List.drop_drop, List.drop_left]

/-- The search ends behind an identifier that is the keyword. -/
theorem behind?_self (hword : IsWord word) {w s : List Char}
    (h : Text.sameLetters w word = true) (hs : Stops s) :
    behind? word (w ++ s) = some s := by
  have hlen := length_eq_of_sameLetters h
  unfold behind?
  rw [keywordIndex?_self hword h hs, Option.map_some, Nat.zero_add, ← hlen, List.drop_left]

/-- Nothing comes behind a keyword in the empty text. -/
@[simp]
theorem behind?_nil : behind? word [] = none := rfl

/-! ## What begins with a keyword -/

/-- Two cursors stand alike: the same text is ahead, and if an identifier may go on at one then it
may at the other. -/
def Alike (c d : Cursor) : Prop :=
  c.ahead = d.ahead ∧ c.passed.head?.any isIdent = d.passed.head?.any isIdent

/-- Cursors that stand alike do so after the same move. -/
theorem Alike.advance {c d : Cursor} (h : c.Alike d) (n : Nat) :
    (c.advance n).Alike (d.advance n) := by
  obtain ⟨hahead, hpassed⟩ := h
  -- The last character passed is one of those just passed, or, after no move, the one before.
  refine ⟨by simp [Cursor.advance, hahead], ?_⟩
  unfold Cursor.advance
  rw [hahead]
  cases hr : (d.ahead.take n).reverse with
  | nil => simpa using hpassed
  | cons x t => simp

/-- Cursors with the same text ahead stand alike once they have moved. -/
theorem alike_advance (c d : Cursor) (h : c.ahead = d.ahead) (hne : c.ahead ≠ []) {n : Nat}
    (hn : 0 < n) : (c.advance n).Alike (d.advance n) := by
  refine ⟨by simp [Cursor.advance, h], ?_⟩
  unfold Cursor.advance
  rw [← h]
  cases hr : (c.ahead.take n).reverse with
  | nil =>
    rw [List.reverse_eq_nil_iff, List.take_eq_nil_iff] at hr
    rcases hr with rfl | hr
    · exact absurd hn (Nat.lt_irrefl 0)
    · exact absurd hr hne
  | cons x t => simp

variable {α : Type} {keyword : Keyword} {reader : List Char → Option α × List Char}

/-- The constructs ahead are the one behind the first keyword, if there is one, and those that are
found from where its reader stopped. -/
theorem occurrences_eq (c : Cursor) :
    c.occurrences keyword reader =
      match keywordIndex? keyword.letters c.passed.head? c.ahead with
      | none => []
      | some n =>
        let behind := c.advance (n + keyword.letters.length)
        let next := behind.moveTo (reader behind.ahead).2
        ((reader behind.ahead).1.toList.map fun v => ⟨c.advance n, next, v⟩) ++
          next.occurrences keyword reader := by
  rw [occurrences]
  split
  · next h =>
    rw [findKeyword?, Option.map_eq_none_iff] at h
    rw [h]
  · next start behind h =>
    obtain ⟨n, hn, heq⟩ := Option.map_eq_some_iff.1 h
    rw [Prod.mk.injEq] at heq
    obtain ⟨rfl, rfl⟩ := heq
    rw [hn]
    simp only
    split
    · next v hv => rw [hv]; rfl
    · next hv => rw [hv]; rfl

/-- What holds where no keyword is ahead, and in front of a keyword if it holds where the reader
behind that stops, holds of every cursor. -/
@[elab_as_elim]
theorem search_induction (keyword : Keyword) (reader : List Char → Option α × List Char)
    {motive : Cursor → Prop}
    (done : ∀ c, keywordIndex? keyword.letters c.passed.head? c.ahead = none → motive c)
    (found : ∀ c n, keywordIndex? keyword.letters c.passed.head? c.ahead = some n →
      motive ((c.advance (n + keyword.letters.length)).moveTo
        (reader (c.advance (n + keyword.letters.length)).ahead).2) → motive c)
    (c : Cursor) : motive c := by
  induction hn : c.ahead.length using Nat.strong_induction_on generalizing c with
  | _ n ih =>
    subst hn
    cases hi : keywordIndex? keyword.letters c.passed.head? c.ahead with
    | none => exact done c hi
    | some i =>
      have hlt := keywordIndex?_lt_length hi
      have hpos := List.length_pos_iff.2 keyword.nonempty
      refine found c i hi (ih _ ?_ _ rfl)
      simp only [moveTo, length_ahead_advance]
      omega

/-- Cursors that stand alike have the same constructs ahead. -/
theorem Alike.map_value_occurrences {c d : Cursor} (h : c.Alike d) :
    (c.occurrences keyword reader).map (·.value) =
      (d.occurrences keyword reader).map (·.value) := by
  -- Both searches find the keyword at the same place, and the cursors behind it stand alike.
  have hindex {c d : Cursor} (h : c.Alike d) :
      keywordIndex? keyword.letters d.passed.head? d.ahead =
        keywordIndex? keyword.letters c.passed.head? c.ahead := by
    rw [← h.1]
    exact (keywordIndex?_congr h.2 _).symm
  induction c using search_induction keyword reader generalizing d with
  | done c hi => rw [occurrences_eq c, occurrences_eq d, hindex h, hi]
  | found c i hi ih =>
    have hbehind := h.advance (i + keyword.letters.length)
    rw [occurrences_eq c, occurrences_eq d, hindex h, hi]
    simp only [List.map_append, List.map_map, hbehind.1]
    congr 1
    rw [← hbehind.1]
    refine ih ?_
    unfold moveTo
    rw [hbehind.1]
    exact hbehind.advance _

end Cursor

/-- What `reader` finds behind the keywords of a text, from left to right. -/
def constructs {α : Type} (keyword : Keyword) (reader : List Char → Option α × List Char)
    (s : List Char) : List α :=
  ((Cursor.start s).occurrences keyword reader).map (·.value)

section constructs

open Cursor

variable {α : Type} {keyword : Keyword} {reader : List Char → Option α × List Char}

/-- An identifier goes on at the place just behind the letters of a keyword. -/
theorem Cursor.isIdent_of_keywordIndex? (hword : IsWord keyword.letters) {s : List Char} {n : Nat}
    (h : keywordIndex? keyword.letters none s = some n) :
    ((start s).advance (n + keyword.letters.length)).passed.head?.any isIdent = true := by
  -- The last character passed is the last letter of the keyword.
  obtain ⟨p, w, t, rfl, rfl, -, hsame, -⟩ := exists_of_keywordIndex? h
  have hlen := length_eq_of_sameLetters hsame
  have hne : w ≠ [] := by
    rw [← List.length_pos_iff, hlen]
    exact List.length_pos_iff.2 hword.1
  simp only [advance, start, ← hlen, ← List.length_append, ← List.append_assoc, List.take_left,
    List.append_nil, List.head?_reverse, List.getLast?_append, List.getLast?_eq_some_getLast hne,
    Option.some_or, Option.any_some]
  exact Scan.isIdent_of_sameLetters hword.2 hsame _ (List.getLast_mem hne)

/-- The constructs of a text depend only on what comes behind its first keyword. -/
theorem constructs_congr (hword : IsWord keyword.letters) {s t : List Char}
    (h : behind? keyword.letters s = behind? keyword.letters t) :
    constructs keyword reader s = constructs keyword reader t := by
  unfold behind? at h
  unfold constructs
  rw [occurrences_eq, occurrences_eq]
  simp only [start, List.head?_nil]
  cases hs : keywordIndex? keyword.letters none s with
  | none =>
    rw [hs] at h
    cases ht : keywordIndex? keyword.letters none t with
    | none => rfl
    | some m => simp [ht] at h
  | some n =>
    rw [hs] at h
    cases ht : keywordIndex? keyword.letters none t with
    | none => simp [ht] at h
    | some m =>
      rw [ht, Option.map_some, Option.map_some, Option.some.injEq] at h
      -- Behind the keywords the same text is ahead and an identifier has just been passed.
      have halike : ((start s).advance (n + keyword.letters.length)).Alike
          ((start t).advance (m + keyword.letters.length)) := by
        refine ⟨h, ?_⟩
        rw [isIdent_of_keywordIndex? hword hs, isIdent_of_keywordIndex? hword ht]
      have hahead := halike.1
      unfold start at hahead halike
      simp only [List.map_append, List.map_map, moveTo, hahead]
      congr 1
      exact (halike.advance _).map_value_occurrences

/-- From a place that no identifier runs across, the constructs ahead are those of the text. -/
theorem map_value_occurrences (hword : IsWord keyword.letters) {c : Cursor}
    (h : c.passed.head?.any isIdent = true → Stops c.ahead) :
    (c.occurrences keyword reader).map (·.value) = constructs keyword reader c.ahead := by
  by_cases hp : c.passed.head?.any isIdent = true
  · -- The search only looks at the identifier that comes before if one goes on.
    have hs := h hp
    have hindex : keywordIndex? keyword.letters c.passed.head? c.ahead =
        keywordIndex? keyword.letters none c.ahead := by
      cases hc : c.ahead with
      | nil => rfl
      | cons x s =>
        rw [hc] at hs
        rw [keywordIndex?_cons hword (stops_cons.1 hs), keywordIndex?_cons hword (stops_cons.1 hs)]
    unfold constructs
    rw [occurrences_eq, occurrences_eq, hindex]
    simp only [start, List.head?_nil]
    cases hi : keywordIndex? keyword.letters none c.ahead with
    | none => rfl
    | some n =>
      have hne : c.ahead ≠ [] := by
        intro hnil
        rw [hnil] at hi
        cases hi
      have hpos : 0 < n + keyword.letters.length :=
        Nat.add_pos_right _ (List.length_pos_iff.2 hword.1)
      have halike : (c.advance (n + keyword.letters.length)).Alike
          (Cursor.advance ⟨[], c.ahead⟩ (n + keyword.letters.length)) :=
        alike_advance c ⟨[], c.ahead⟩ rfl hne hpos
      simp only [List.map_append, List.map_map, moveTo, halike.1]
      congr 1
      exact (halike.advance _).map_value_occurrences
  · exact Alike.map_value_occurrences ⟨rfl, by simpa [start] using hp⟩

/-- A text without characters has no constructs. -/
@[simp]
theorem constructs_nil : constructs keyword reader [] = [] := by
  unfold constructs
  rw [occurrences_eq]
  rfl

/-- A character outside identifiers adds no construct. -/
theorem constructs_cons (hword : IsWord keyword.letters) {c : Char} {s : List Char}
    (hc : isIdent c = false) :
    constructs keyword reader (c :: s) = constructs keyword reader s :=
  constructs_congr hword (behind?_cons hword hc)

/-- An identifier that is not the keyword adds no construct. -/
theorem constructs_word (hword : IsWord keyword.letters) {w s : List Char}
    (hw : ∀ c ∈ w, isIdent c = true) (hs : Stops s)
    (h : Text.sameLetters w keyword.letters = false) :
    constructs keyword reader (w ++ s) = constructs keyword reader s :=
  constructs_congr hword (behind?_word hword hw hs h)

/-- A text among whose identifiers the keyword is not adds no construct. -/
theorem constructs_append (hword : IsWord keyword.letters) {p s : List Char}
    (h : ∀ w ∈ identifiers p, Text.sameLetters w keyword.letters = false) (hb : Breaks p s) :
    constructs keyword reader (p ++ s) = constructs keyword reader s :=
  constructs_congr hword (behind?_append hword h hb)

/-- Parts behind each other have the constructs that each of them adds in front of any text. -/
theorem constructs_flatMap {β : Type} {parts : List β} {f : β → List Char} {g : β → List α}
    (h : ∀ part ∈ parts, ∀ s,
      constructs keyword reader (f part ++ s) = g part ++ constructs keyword reader s)
    (s : List Char) :
    constructs keyword reader (parts.flatMap f ++ s) =
      parts.flatMap g ++ constructs keyword reader s := by
  induction parts with
  | nil => rfl
  | cons part parts ih =>
    have hrest := ih fun p hp => h p (List.mem_cons_of_mem _ hp)
    rw [List.flatMap_cons, List.append_assoc, h part List.mem_cons_self, hrest, List.flatMap_cons,
      List.append_assoc]

/-- Parts that add no construct add none behind each other. -/
theorem constructs_flatMap_idle {β : Type} {parts : List β} {f : β → List Char}
    (h : ∀ part ∈ parts, ∀ s, constructs keyword reader (f part ++ s) = constructs keyword reader s)
    (s : List Char) :
    constructs keyword reader (parts.flatMap f ++ s) = constructs keyword reader s := by
  have hflat := constructs_flatMap (g := fun _ => []) h s
  rwa [List.flatMap_eq_nil_iff.2 fun _ _ => rfl] at hflat

/-- Behind the keyword the reader finds a construct or none, and the search goes on where it
stopped. -/
theorem constructs_self (hword : IsWord keyword.letters) {w p s : List Char} {v : Option α}
    (h : Text.sameLetters w keyword.letters = true) (hp : Stops (p ++ s))
    (hr : reader (p ++ s) = (v, s)) (hb : Breaks p s) :
    constructs keyword reader (w ++ (p ++ s)) = v.toList ++ constructs keyword reader s := by
  have hlen := length_eq_of_sameLetters h
  -- The reader starts behind the keyword and ends behind `p`.
  have hbehind : (start (w ++ (p ++ s))).advance (0 + keyword.letters.length) =
      ⟨w.reverse, p ++ s⟩ := by
    simp only [advance, start, Nat.zero_add, ← hlen, List.take_left, List.drop_left,
      List.append_nil]
  have hnext : (⟨w.reverse, p ++ s⟩ : Cursor).moveTo s = ⟨p.reverse ++ w.reverse, s⟩ := by
    simp [moveTo, advance]
  conv_lhs => unfold constructs
  rw [occurrences_eq]
  simp only [start, List.head?_nil, keywordIndex?_self hword h hp]
  unfold start at hbehind
  rw [hbehind]
  simp only [hr, hnext, List.map_append, List.map_map]
  congr 1
  · simp [Function.comp_def]
  · refine map_value_occurrences hword ?_
    -- An identifier that goes on there is the end of `p`, or the keyword itself when `p` is empty.
    intro hl
    cases p using List.reverseRecOn with
    | nil => exact hp
    | append_singleton p c => exact hb (by simpa using hl)

/-- An identifier behind which the reader finds nothing and does not pass over identifiers adds no
construct. -/
theorem constructs_stuck (hword : IsWord keyword.letters) {w p s : List Char}
    (hw : ∀ c ∈ w, isIdent c = true) (hs : Stops (p ++ s))
    (hp : ∀ c ∈ p, isIdent c = false) (hr : reader (p ++ s) = (none, s)) :
    constructs keyword reader (w ++ (p ++ s)) = constructs keyword reader (p ++ s) := by
  -- An identifier that is the keyword is passed with nothing read, any other is not looked at.
  by_cases h : Text.sameLetters w keyword.letters = true
  · have hskip : constructs keyword reader (p ++ s) = constructs keyword reader s := by
      refine constructs_append hword ?_ ?_
      · intro v hv
        rw [identifiers_of_forall hp] at hv
        cases hv
      · exact Breaks.of_forall hp
    rw [constructs_self hword h hs hr (Breaks.of_forall hp), hskip]
    rfl
  · exact constructs_word hword hw hs (by simpa using h)

/-- An identifier behind which an optional step reads nothing adds no construct. -/
theorem constructs_orStay (hword : IsWord keyword.letters)
    {read? : List Char → Option (α × List Char)} {w s : List Char} (hw : IsIdentifier w)
    (hs : Stops s) (hnone : read? s = none) :
    constructs keyword (Scan.orStay read?) (w ++ s) = constructs keyword (Scan.orStay read?) s := by
  refine constructs_stuck hword (p := []) hw.2 hs (by simp) ?_
  unfold Scan.orStay
  rw [List.nil_append, hnone]

end constructs

end SchemaDiagram
