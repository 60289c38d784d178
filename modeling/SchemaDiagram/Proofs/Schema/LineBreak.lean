import SchemaDiagram.Proofs.Schema.Names
import SchemaDiagram.Proofs.Schema.Outline
import SchemaDiagram.Schema.Edit

/-!
# Blanks in front of line breaks

A text is `Padded` from another one if blanks were put in front of some of its line breaks. It
declares what the other text declares (`Schema.declaredBy_eq_of_padded`), whatever is left
unfinished in both: the readers of schema text take blanks in any number, they take a run of other
characters up to its end, and the lines of a table are trimmed before they are read.

There are two instances. Carriage returns may stand in front of any of the line breaks
(`Schema.parse_addReturns`), and a text is padded from the same text with shorter runs of line
breaks (`Schema.declaredBy_squeezeBreaks`).
-/

namespace SchemaDiagram

open Character SchemaText

variable {α β : Type} {keyword : Keyword} {read? : List Char → Option (α × List Char)}
  {s t : List Char}

/-! ## Padded texts -/

/-- The second text is the first one with blanks in front of some of its line breaks. -/
inductive Padded : List Char → List Char → Prop
  | nil : Padded [] []
  | keep (c : Char) {s t : List Char} (h : Padded s t) : Padded (c :: s) (c :: t)
  | blank {c : Char} (hc : isBlank c = true) {s t : List Char} (h : Padded ('\n' :: s) t) :
    Padded ('\n' :: s) (c :: t)

namespace Padded

/-- Identifiers in front of a padded text stand in front of the text. -/
theorem exists_of_identifier {w : List Char} (hw : ∀ c ∈ w, isIdent c = true)
    (h : Padded s (w ++ t)) : ∃ u, s = w ++ u ∧ Padded u t := by
  induction w generalizing s with
  | nil => exact ⟨s, rfl, h⟩
  | cons c w ih =>
    rw [List.forall_mem_cons] at hw
    cases h with
    | keep _ h =>
      obtain ⟨u, rfl, hu⟩ := ih hw.2 h
      exact ⟨u, rfl, hu⟩
    | blank hc _ =>
      rw [isBlank_of_isIdent hw.1] at hc
      cases hc

/-- Where identifiers stop in a padded text they stop in the text. -/
theorem stops (h : Padded s t) (ht : Stops t) : Stops s := by
  cases h with
  | nil => exact stops_nil
  | keep c _ => exact stops_cons.2 (stops_cons.1 ht)
  | blank _ _ => exact stops_cons.2 rfl

/-- Behind their blanks the texts are padded alike. -/
theorem skipBlanks (h : Padded s t) : Padded (Scan.skipBlanks s) (Scan.skipBlanks t) := by
  induction h with
  | nil => exact nil
  | keep c h ih =>
    cases hblank : isBlank c with
    | true => rwa [Scan.skipBlanks_cons hblank, Scan.skipBlanks_cons hblank]
    | false =>
      rw [Scan.skipBlanks_of_not hblank, Scan.skipBlanks_of_not hblank]
      exact h.keep c
  | blank hc _ ih => rwa [Scan.skipBlanks_cons hc]

/-- A run of characters without blanks is the same in front of both texts. -/
theorem takeWhile {f : Char → Bool} (hf : ∀ c, isBlank c = true → f c = false)
    (h : Padded s t) :
    s.takeWhile f = t.takeWhile f ∧ Padded (s.dropWhile f) (t.dropWhile f) := by
  induction h with
  | nil => exact ⟨rfl, nil⟩
  | keep c h ih =>
    cases hc : f c with
    | true => simpa [hc] using ih
    | false => simpa [hc] using h.keep c
  | blank hc h _ =>
    have hbreak : f '\n' = false := hf '\n' rfl
    simpa [hf _ hc, hbreak] using h.blank hc

/-- The texts in front of a character that is no blank and behind it are padded alike. -/
theorem exists_of_append_cons {c : Char} (hc : isBlank c = false) {p : List Char}
    (h : Padded (p ++ c :: s) t) : ∃ p' s', t = p' ++ c :: s' ∧ Padded p p' ∧ Padded s s' := by
  generalize hu : p ++ c :: s = u at h
  induction h generalizing p with
  | nil => simp at hu
  | @keep d u t h ih =>
    cases p with
    | nil =>
      obtain ⟨rfl, rfl⟩ := List.cons.inj hu
      exact ⟨[], t, rfl, nil, h⟩
    | cons x p =>
      obtain ⟨rfl, rfl⟩ := List.cons.inj hu
      obtain ⟨p', s', rfl, hp, hs⟩ := ih rfl
      exact ⟨x :: p', s', rfl, hp.keep x, hs⟩
  | @blank d hd u t h ih =>
    cases p with
    | nil =>
      -- The character would be the line break, which is a blank.
      obtain ⟨rfl, -⟩ := List.cons.inj hu
      cases hc
    | cons x p =>
      obtain ⟨p', s', rfl, hp, hs⟩ := ih hu
      obtain ⟨rfl, -⟩ := List.cons.inj hu
      exact ⟨d :: p', s', rfl, hp.blank hd, hs⟩

/-- No other characters are in a padded text than in the text, but blanks. -/
theorem mem_of_mem {c : Char} (hc : isBlank c = false) (h : Padded s t) (hmem : c ∈ t) :
    c ∈ s := by
  induction h with
  | nil => exact hmem
  | keep d _ ih =>
    rcases List.mem_cons.1 hmem with rfl | hlater
    · exact List.mem_cons_self
    · exact List.mem_cons_of_mem d (ih hlater)
  | blank hd _ ih =>
    rcases List.mem_cons.1 hmem with rfl | hlater
    · rw [hc] at hd
      cases hd
    · exact ih hlater

end Padded

/-! ## Reading a padded text -/

/-- A reader takes from a padded text what it takes from the text, up to `R`, and what it leaves
there is padded from what it leaves of the text. -/
def Scan.Pads (R : α → α → Prop) (read? : List Char → Option (α × List Char)) : Prop :=
  ∀ s t, Padded s t → Option.Rel (fun a b => R a.1 b.1 ∧ Padded a.2 b.2) (read? s) (read? t)

/-- Two steps that fail together and go on alike from related results have related results. -/
theorem rel_bind {γ δ : Type} {R : α → β → Prop} {S : γ → δ → Prop} {x : Option α} {y : Option β}
    {f : α → Option γ} {g : β → Option δ} (h : Option.Rel R x y)
    (hfg : ∀ a b, R a b → Option.Rel S (f a) (g b)) :
    Option.Rel S (x >>= f) (y >>= g) := by
  cases h with
  | none => exact .none
  | some h => exact hfg _ _ h

namespace Scan

/-- Blanks are read alike. -/
theorem rel_blanks? (h : Padded s t) : Option.Rel Padded (blanks? s) (blanks? t) := by
  cases h with
  | nil => exact .none
  | keep c h =>
    cases hblank : isBlank c with
    | true =>
      rw [blanks?_cons hblank, blanks?_cons hblank]
      exact .some h.skipBlanks
    | false =>
      rw [blanks?_of_not hblank, blanks?_of_not hblank]
      exact .none
  | blank hc h =>
    rw [blanks?_cons hc]
    exact .some h.skipBlanks

/-- A character that is no blank is read alike. -/
theorem rel_char? {c : Char} (hc : isBlank c = false) (h : Padded s t) :
    Option.Rel Padded (char? c s) (char? c t) := by
  cases h with
  | nil => exact .none
  | keep d h =>
    rw [char?, char?]
    split
    · exact .some h
    · exact .none
  | @blank d hd s t h =>
    have hne {d : Char} (hd : isBlank d = true) (t : List Char) : (d :: t).head? ≠ some c := by
      rintro heq
      rw [Option.some.inj heq, hc] at hd
      cases hd
    rw [char?_of_ne (hne rfl s), char?_of_ne (hne hd t)]
    exact .none

/-- An identifier is read alike. -/
theorem pads_ident? : Pads Eq ident? := by
  intro s t h
  obtain ⟨htake, hdrop⟩ := h.takeWhile fun _ => isIdent_of_isBlank
  unfold ident?
  rw [htake]
  cases t.takeWhile isIdent with
  | nil => exact .none
  | cons c w => exact .some ⟨rfl, hdrop⟩

/-- The text up to a character that is no blank is read alike, but padded. -/
theorem pads_until? {c : Char} (hc : isBlank c = false) : Pads Padded (until? [c]) := by
  intro s t h
  by_cases hmem : c ∈ s
  · obtain ⟨p, s, rfl, hp⟩ := List.eq_append_cons_of_mem hmem
    obtain ⟨p', s', rfl, hpp, hss⟩ := h.exists_of_append_cons hc
    rw [until?_singleton hp, until?_singleton fun hp' => hp (hpp.mem_of_mem hc hp')]
    exact .some ⟨hpp, hss⟩
  · rw [until?_of_not_mem hmem, until?_of_not_mem fun ht => hmem (h.mem_of_mem hc ht)]
    exact .none

end Scan

/-- A column of a table is read alike. -/
theorem Reference.pads_columnRef? : Scan.Pads Eq Reference.columnRef? := by
  intro s t h
  refine rel_bind (Scan.pads_ident? s t h) ?_
  rintro ⟨table, s⟩ ⟨_, t⟩ ⟨rfl, h⟩
  refine rel_bind (Scan.rel_char? rfl h) fun s t h => ?_
  refine rel_bind (Scan.pads_ident? s t h) ?_
  rintro ⟨column, s⟩ ⟨_, t⟩ ⟨rfl, h⟩
  exact .some ⟨rfl, h⟩

/-- An operator is read alike. -/
theorem Reference.pads_operator? : Scan.Pads Eq Reference.operator? := by
  have hblank (c : Char) (hc : isBlank c = true) : isOperatorChar c = false := by
    by_contra hoperator
    unfold isOperatorChar at hoperator
    simp only [Bool.not_eq_false, Bool.or_eq_true, beq_iff_eq] at hoperator
    rcases hoperator with (rfl | rfl) | rfl <;> exact absurd hc (by decide)
  intro s t h
  obtain ⟨htake, hdrop⟩ := h.takeWhile hblank
  unfold operator?
  rw [htake]
  cases t.takeWhile isOperatorChar with
  | nil => exact .none
  | cons c w => exact .some ⟨rfl, hdrop⟩

/-- A reference is read alike. -/
theorem Reference.pads_tail? : Scan.Pads Eq Reference.tail? := by
  intro s t h
  refine rel_bind (Scan.rel_char? rfl h) fun s t h => ?_
  refine rel_bind (pads_columnRef? _ _ h.skipBlanks) ?_
  rintro ⟨source, s⟩ ⟨_, t⟩ ⟨rfl, h⟩
  refine rel_bind (pads_operator? _ _ h.skipBlanks) ?_
  rintro ⟨cardinality, s⟩ ⟨_, t⟩ ⟨rfl, h⟩
  refine rel_bind (pads_columnRef? _ _ h.skipBlanks) ?_
  rintro ⟨target, s⟩ ⟨_, t⟩ ⟨rfl, h⟩
  exact .some ⟨rfl, h⟩

/-- A table block is read alike, but its body is padded, too. -/
theorem TableBlock.pads_tail? :
    Scan.Pads (fun b b' => b.name = b'.name ∧ Padded b.body b'.body) TableBlock.tail? := by
  intro s t h
  refine rel_bind (Scan.rel_blanks? h) fun s t h => ?_
  refine rel_bind (Scan.pads_ident? s t h) ?_
  rintro ⟨name, s⟩ ⟨_, t⟩ ⟨rfl, h⟩
  refine rel_bind (Scan.rel_char? rfl h.skipBlanks) fun s t h => ?_
  refine rel_bind (Scan.pads_until? rfl s t h) ?_
  rintro ⟨body, s⟩ ⟨body', t⟩ ⟨hbody, h⟩
  exact .some ⟨⟨rfl, hbody⟩, h⟩

/-! ## Searching a padded text -/

/-- A reader takes something off the front of a text and does not stop within an identifier. -/
def Scan.Divides (read? : List Char → Option (α × List Char)) : Prop :=
  ∀ s v rest, read? s = some (v, rest) → ∃ p, s = p ++ rest ∧ Breaks p rest

/-- Behind the keyword a construct is found, and the search goes on behind it. -/
theorem Scan.Divides.constructs (hdivides : Scan.Divides read?) (hword : IsWord keyword.letters)
    {w rest : List Char} (hsame : Text.sameLetters w keyword.letters = true) (hs : Stops s) {v : α}
    (hread : read? s = some (v, rest)) :
    constructs keyword (Scan.orStay read?) (w ++ s) =
      v :: constructs keyword (Scan.orStay read?) rest := by
  obtain ⟨p, rfl, hbreaks⟩ := hdivides s v rest hread
  refine constructs_self (v := some v) hword hsame hs ?_ hbreaks
  unfold Scan.orStay
  rw [hread]

/-- The constructs of a padded text are those of the text, each up to what its reader makes of
padding. -/
theorem Scan.Pads.constructs {R : α → α → Prop} (hpads : Scan.Pads R read?)
    (hdivides : Scan.Divides read?) (hword : IsWord keyword.letters) (h : Padded s t) :
    List.Forall₂ R (constructs keyword (Scan.orStay read?) s)
      (constructs keyword (Scan.orStay read?) t) := by
  -- By induction on the text, as the search goes on where the reader stopped.
  induction t using suffix_induction generalizing s with
  | nil =>
    cases h
    rw [constructs_nil]
    exact .nil
  | cons c t hc ih =>
    rw [constructs_cons hword hc]
    cases h with
    | keep _ h =>
      rw [constructs_cons hword hc]
      exact ih t (List.suffix_refl t) h
    | blank _ h => exact ih t (List.suffix_refl t) h
  | word w t hw ht ih =>
    obtain ⟨u, rfl, hu⟩ := h.exists_of_identifier hw.2
    have hs := hu.stops ht
    by_cases hsame : Text.sameLetters w keyword.letters = true
    · have hread := hpads u t hu
      generalize hfound : read? u = found, hfound' : read? t = found' at hread
      cases hread with
      | none =>
        rw [constructs_orStay hword hw hs hfound, constructs_orStay hword hw ht hfound']
        exact ih t (List.suffix_refl t) hu
      | @some a b hread =>
        obtain ⟨p, hp, -⟩ := hdivides t b.1 b.2 hfound'
        rw [hdivides.constructs hword hsame hs hfound, hdivides.constructs hword hsame ht hfound']
        exact .cons hread.1 (ih b.2 ⟨p, hp.symm⟩ hread.2)
    · have hother : Text.sameLetters w keyword.letters = false := by simpa using hsame
      rw [constructs_word hword hw.2 hs hother, constructs_word hword hw.2 ht hother]
      exact ih t (List.suffix_refl t) hu

/-! ## What the readers leave -/

namespace Scan

variable {s rest : List Char}

/-- What remains behind a character comes behind it in the text. -/
theorem suffix_of_char? {c : Char} (h : char? c s = some rest) : rest <:+ s := by
  cases s with
  | nil => cases h
  | cons d s =>
    rw [char?] at h
    split at h
    · exact Option.some.inj h ▸ List.suffix_cons d s
    · cases h

/-- What remains behind blanks comes behind them in the text. -/
theorem suffix_of_blanks? (h : blanks? s = some rest) : rest <:+ s := by
  cases s with
  | nil => cases h
  | cons c s =>
    rw [blanks?] at h
    split at h
    · exact Option.some.inj h ▸ (List.dropWhile_suffix isBlank).trans (List.suffix_cons c s)
    · cases h

/-- What remains behind an identifier comes behind it in the text and stops identifiers. -/
theorem suffix_of_ident? {name : List Char} (h : ident? s = some (name, rest)) :
    rest <:+ s ∧ Stops rest := by
  have hrest : rest = s.dropWhile isIdent := by
    unfold ident? at h
    split at h
    · cases h
    · exact (congrArg Prod.snd (Option.some.inj h)).symm
  refine ⟨hrest ▸ List.dropWhile_suffix isIdent, ?_⟩
  unfold Stops
  cases hdrop : s.dropWhile isIdent with
  | nil =>
    rw [hrest, hdrop]
    rfl
  | cons c t =>
    have hhead := List.head?_dropWhile_not isIdent s
    rw [hdrop] at hhead
    rw [hrest, hdrop]
    simpa using hhead

end Scan

/-- A column that is read ends where identifiers stop. -/
theorem Reference.suffix_of_columnRef? {s rest : List Char} {r : ColumnRef}
    (h : columnRef? s = some (r, rest)) : rest <:+ s ∧ Stops rest := by
  unfold columnRef? at h
  simp only [Option.bind_eq_bind, Option.bind_eq_some_iff] at h
  obtain ⟨⟨table, behind⟩, htable, point, hpoint, ⟨column, behind'⟩, hcolumn, hr⟩ := h
  cases hr
  obtain ⟨hcolumn', hstops⟩ := Scan.suffix_of_ident? hcolumn
  exact ⟨hcolumn'.trans ((Scan.suffix_of_char? hpoint).trans (Scan.suffix_of_ident? htable).1),
    hstops⟩

/-- A reference ends where identifiers stop. -/
theorem Reference.divides_tail? : Scan.Divides Reference.tail? := by
  intro s r rest h
  unfold tail? at h
  simp only [Option.bind_eq_bind, Option.bind_eq_some_iff] at h
  obtain ⟨colon, hcolon, ⟨source, behind⟩, hsource, ⟨cardinality, behind'⟩, hoperator,
    ⟨target, behind''⟩, htarget, hr⟩ := h
  cases hr
  have hskip (t : List Char) : Scan.skipBlanks t <:+ t := List.dropWhile_suffix isBlank
  have hoperator' : behind' <:+ Scan.skipBlanks behind := by
    unfold operator? at hoperator
    split at hoperator
    · cases hoperator
    · cases hoperator
      exact List.dropWhile_suffix isOperatorChar
  obtain ⟨htarget', hstops⟩ := suffix_of_columnRef? htarget
  obtain ⟨p, hp⟩ : behind'' <:+ s := calc
    behind'' <:+ behind' := htarget'.trans (hskip behind')
    _ <:+ behind := hoperator'.trans (hskip behind)
    _ <:+ colon := (suffix_of_columnRef? hsource).1.trans (hskip colon)
    _ <:+ s := Scan.suffix_of_char? hcolon
  exact ⟨p, hp.symm, Breaks.of_stops hstops⟩

/-- A table block ends with its brace. -/
theorem TableBlock.divides_tail? : Scan.Divides TableBlock.tail? := by
  intro s b rest h
  unfold tail? at h
  simp only [Option.bind_eq_bind, Option.bind_eq_some_iff] at h
  obtain ⟨behind, hblanks, ⟨name, behindName⟩, hname, behindBrace, hbrace, ⟨body, behindBody⟩,
    hbody, hb⟩ := h
  cases hb
  have hskip : Scan.skipBlanks behindName <:+ behindName := List.dropWhile_suffix isBlank
  obtain ⟨p, hp⟩ : behindBrace <:+ s := calc
    behindBrace <:+ behindName := (Scan.suffix_of_char? hbrace).trans hskip
    _ <:+ behind := (Scan.suffix_of_ident? hname).1
    _ <:+ s := Scan.suffix_of_blanks? hblanks
  rw [Scan.eq_append_of_until? hbody] at hp
  refine ⟨p ++ (body ++ ['}']), by rw [← hp]; simp, fun hlast => ?_⟩
  rw [← List.append_assoc, List.getLast?_concat] at hlast
  cases hlast

/-! ## What a padded text declares -/

/-- The lines of a padded text declare the columns that the lines of the text declare. -/
theorem Padded.filterMap_lines (h : Padded s t) :
    (Text.lines s).filterMap Column.ofLine? = (Text.lines t).filterMap Column.ofLine? := by
  have hlines {p : List Char} (hp : '\n' ∉ p) (s : List Char) :
      Text.lines (p ++ '\n' :: s) = p :: Text.lines s := by
    rw [Text.lines_append_break, Text.lines_of_not_mem hp]
    rfl
  have hmem {p : List Char} (hp : '\n' ∉ p) {c : Char} (hc : c ≠ '\n') : '\n' ∉ p ++ [c] := by
    simp [hp, Ne.symm hc]
  -- By induction on the padding, with what is already there of the first line in front.
  have hfront (p : List Char) (hp : '\n' ∉ p) :
      (Text.lines (p ++ s)).filterMap Column.ofLine? =
        (Text.lines (p ++ t)).filterMap Column.ofLine? := by
    induction h generalizing p with
    | nil => rfl
    | @keep c s t _ ih =>
      by_cases hc : c = '\n'
      · have hrest := ih [] List.not_mem_nil
        rw [hc, hlines hp, hlines hp, List.filterMap_cons, List.filterMap_cons]
        simp only [List.nil_append] at hrest
        rw [hrest]
      · have hrest := ih (p ++ [c]) (hmem hp hc)
        rwa [List.append_assoc, List.append_assoc] at hrest
    | @blank c hc s t _ ih =>
      by_cases hbreak : c = '\n'
      · have hrest := ih [] List.not_mem_nil
        have hnil : Column.ofLine? [] = none := rfl
        rw [hlines List.not_mem_nil, List.filterMap_cons_none hnil, List.nil_append] at hrest
        rw [hbreak, hlines hp, hlines hp, List.filterMap_cons, List.filterMap_cons, hrest]
      · have hrest := ih (p ++ [c]) (hmem hp hbreak)
        have htrim : Column.ofLine? (p ++ [c]) = Column.ofLine? p := by
          unfold Column.ofLine?
          rw [Text.trim_append_blanks (by simpa using hc)]
        rw [hlines (hmem hp hbreak), List.filterMap_cons, htrim, List.append_assoc] at hrest
        rw [hlines hp, List.filterMap_cons]
        exact hrest
  exact hfront [] List.not_mem_nil

/-- A padded text declares what the text declares. -/
theorem Schema.declaredBy_eq_of_padded (h : Padded s t) :
    Schema.declaredBy t = Schema.declaredBy s := by
  have hblocks := TableBlock.pads_tail?.constructs TableBlock.divides_tail?
    TableBlock.isWord_keyword h
  have hreferences := Reference.pads_tail?.constructs Reference.divides_tail?
    Reference.isWord_keyword h
  have htable (b b' : TableBlock) (hb : b.name = b'.name ∧ Padded b.body b'.body) :
      b.table = b'.table := by
    unfold TableBlock.table
    rw [hb.1, hb.2.filterMap_lines]
  rw [List.forall₂_eq_eq_eq] at hreferences
  have htables := List.forall₂_eq_eq_eq ▸ List.forall₂_map_left_iff.2
    (List.forall₂_map_right_iff.2 (hblocks.imp htable))
  unfold Schema.declaredBy
  rw [htables, hreferences]

/-! ## Carriage returns -/

/-- The text with a carriage return in front of its line breaks that are chosen, by their number. -/
def Text.addReturns (chosen : Nat → Bool) : List Char → List Char
  | [] => []
  | c :: s =>
    if c = '\n' then
      (if chosen 0 then ['\r', '\n'] else ['\n']) ++ addReturns (fun n => chosen (n + 1)) s
    else c :: addReturns chosen s

/-- A text is padded with carriage returns. -/
theorem Text.padded_addReturns (chosen : Nat → Bool) (s : List Char) :
    Padded s (Text.addReturns chosen s) := by
  induction s generalizing chosen with
  | nil => exact .nil
  | cons c s ih =>
    rw [Text.addReturns]
    split_ifs with hbreak hchosen
    · rw [hbreak]
      exact ((ih _).keep '\n').blank rfl
    · rw [hbreak]
      exact (ih _).keep '\n'
    · exact (ih _).keep c

/-- Carriage returns in front of any line breaks of a text do not change its schema. -/
theorem Schema.parse_addReturns (chosen : Nat → Bool) (text : String) :
    Schema.parse (String.ofList (Text.addReturns chosen text.toList)) = Schema.parse text := by
  rw [Schema.parse_eq, Schema.parse_eq, String.toList_ofList,
    Schema.declaredBy_eq_of_padded (Text.padded_addReturns chosen text.toList)]

/-- The second of three line breaks gets a carriage return, where there is one already. -/
example : Text.addReturns (· == 1) "Table t \x7b\n a int [note: \r\n".toList =
    "Table t \x7b\n a int [note: \r\r\n".toList := by decide

/-! ## Runs of line breaks -/

/-- A text is padded from itself with shorter runs of line breaks. -/
theorem SchemaText.padded_squeezeBreaks (s : List Char) : Padded (squeezeBreaks 0 s) s := by
  -- Of a run, the breaks that go are in front of the last one that stays.
  have hrun (s : List Char) : Padded (squeezeBreaks 0 s) s ∧
      ∀ run, Padded ('\n' :: squeezeBreaks run s) ('\n' :: s) := by
    induction s with
    | nil => exact ⟨.nil, fun _ => Padded.nil.keep '\n'⟩
    | cons c s ih =>
      by_cases hc : c = '\n'
      · rw [hc]
        refine ⟨ih.2 1, fun run => ?_⟩
        rw [squeezeBreaks, if_pos rfl]
        split
        · exact (ih.2 (run + 1)).keep '\n'
        · exact (ih.2 run).blank rfl
      · have hkeep (run : Nat) : squeezeBreaks run (c :: s) = c :: squeezeBreaks 0 s := by
          rw [squeezeBreaks, if_neg hc]
        refine ⟨?_, fun run => ?_⟩
        · rw [hkeep]
          exact ih.1.keep c
        · rw [hkeep]
          exact (ih.1.keep c).keep '\n'
  exact (hrun s).1

/-- Shorter runs of line breaks do not change what a text declares. -/
theorem Schema.declaredBy_squeezeBreaks (s : List Char) :
    Schema.declaredBy (squeezeBreaks 0 s) = Schema.declaredBy s :=
  (Schema.declaredBy_eq_of_padded (SchemaText.padded_squeezeBreaks s)).symm

end SchemaDiagram
