import SchemaDiagram.Proofs.Schema.Grammar

/-!
# What a column that was read is like

A column that a line of a block declares is not any column: its name is an identifier and its type the
lower case of one, its default is trimmed and has no comma outside quotes, and nothing in its default
or its note ends a line, a list of settings or a table (`Schema.readColumn_declaredBy`). That a comma
does not stand outside quotes is seen from the piece between commas that the default was cut from:
what comes in front of it has no quotes.
-/

namespace SchemaDiagram

open Character

/-- A default as it is read. -/
structure ReadDefault (value : List Char) : Prop where
  /-- It has no blanks around it. -/
  trimmed : Text.trim value = value
  /-- Its commas stand in quotes. -/
  whole : Setting.IsWhole value
  /-- Nothing in it ends the line, the settings or the table. -/
  within : ∀ x ∈ value, isClosing x = false

/-- A column as it is read. -/
structure ReadColumn (c : Column) : Prop where
  /-- Its name is an identifier. -/
  name : IsIdentifier c.name.toList
  /-- Its type is an identifier in lower case. -/
  type : ∃ w, IsIdentifier w ∧ c.type.toList = Text.lower w
  /-- Its default is one that is read. -/
  default : ∀ value ∈ c.defaultValue, ReadDefault value.toList
  /-- Nothing in its note ends the line, the settings or the table. -/
  note : ∀ note ∈ c.note, ∀ x ∈ note.toList, isClosing x = false

namespace Setting

variable {s t list piece : List Char} {quote : Option Char}

/-! ## Pieces between commas -/

/-- A character ends a piece, or it belongs to it. -/
theorem splitUnquoted_cons (quote : Option Char) (c : Char) :
    (∀ s, splitUnquoted quote (c :: s) = [] :: splitUnquoted none s) ∨
      ∃ behind, ∀ s, splitUnquoted quote (c :: s) =
        (splitUnquoted behind s).modifyHead (c :: ·) := by
  cases quote with
  | none =>
    by_cases hcomma : (c == ',') = true
    · refine .inl fun s => ?_
      rw [splitUnquoted, if_pos hcomma]
    · refine .inr ⟨if isQuote c then some c else none, fun s => ?_⟩
      rw [splitUnquoted, if_neg hcomma]
  | some q =>
    refine .inr ⟨if c == q then none else some q, fun s => ?_⟩
    rw [splitUnquoted]

/-- An empty text is a single piece. -/
theorem splitUnquoted_nil (quote : Option Char) : splitUnquoted quote [] = [[]] := by
  unfold splitUnquoted
  rfl

/-- There is a first piece. -/
theorem exists_splitUnquoted (quote : Option Char) (s : List Char) :
    ∃ first others, splitUnquoted quote s = first :: others := by
  induction s generalizing quote with
  | nil => exact ⟨[], [], splitUnquoted_nil quote⟩
  | cons c s ih =>
    rcases splitUnquoted_cons quote c with hends | ⟨behind, hcons⟩
    · exact ⟨[], splitUnquoted none s, hends s⟩
    · obtain ⟨first, others, h⟩ := ih behind
      exact ⟨c :: first, others, by rw [hcons, h, List.modifyHead_cons]⟩

/-- The pieces of a text are of its characters. -/
theorem mem_of_mem_splitUnquoted (h : piece ∈ splitUnquoted quote s) : ∀ x ∈ piece, x ∈ s := by
  induction s generalizing quote piece with
  | nil =>
    rw [splitUnquoted_nil, List.mem_singleton] at h
    rw [h]
    exact fun x hx => hx
  | cons c s ih =>
    have hlater (quote : Option Char) {piece : List Char} (h : piece ∈ splitUnquoted quote s) :
        ∀ x ∈ piece, x ∈ c :: s := fun x hx => List.mem_cons_of_mem c (ih h x hx)
    rcases splitUnquoted_cons quote c with hends | ⟨behind, hcons⟩
    · rw [hends] at h
      rcases List.mem_cons.1 h with rfl | h
      · exact fun x hx => nomatch hx
      · exact hlater none h
    · obtain ⟨first, others, hsplit⟩ := exists_splitUnquoted behind s
      rw [hcons, hsplit, List.modifyHead_cons] at h
      rcases List.mem_cons.1 h with rfl | h
      · exact List.forall_mem_cons.2
          ⟨List.mem_cons_self, hlater behind (hsplit ▸ List.mem_cons_self)⟩
      · exact hlater behind (hsplit ▸ List.mem_cons_of_mem first h)

/-- Cut again, a piece is left as it is: the first one if the same quote is open in front of it, and
the others if none is. -/
theorem isWhole_of_splitUnquoted {first : List Char} {others : List (List Char)}
    (h : splitUnquoted quote s = first :: others) :
    splitUnquoted quote first = [first] ∧ ∀ piece ∈ others, IsWhole piece := by
  induction s generalizing quote first others with
  | nil =>
    rw [splitUnquoted_nil] at h
    cases h
    exact ⟨splitUnquoted_nil quote, fun piece hpiece => nomatch hpiece⟩
  | cons c s ih =>
    rcases splitUnquoted_cons quote c with hends | ⟨behind, hcons⟩
    · obtain ⟨second, rest, hsplit⟩ := exists_splitUnquoted none s
      rw [hends, hsplit] at h
      cases h
      obtain ⟨hsecond, hrest⟩ := ih hsplit
      exact ⟨splitUnquoted_nil quote, List.forall_mem_cons.2 ⟨hsecond, hrest⟩⟩
    · obtain ⟨start, rest, hsplit⟩ := exists_splitUnquoted behind s
      rw [hcons, hsplit] at h
      cases h
      obtain ⟨hstart, hrest⟩ := ih hsplit
      exact ⟨by rw [hcons, hstart, List.modifyHead_cons], hrest⟩

/-- The beginning of a single piece is one. -/
theorem splitUnquoted_of_append (h : splitUnquoted quote (s ++ t) = [s ++ t]) :
    splitUnquoted quote s = [s] := by
  induction s generalizing quote with
  | nil => exact splitUnquoted_nil quote
  | cons c s ih =>
    rw [List.cons_append] at h
    rcases splitUnquoted_cons quote c with hends | ⟨behind, hcons⟩
    · rw [hends] at h
      cases (List.cons.inj h).1
    · -- What is left of the piece behind its first character is a single piece, too.
      obtain ⟨first, others, hsplit⟩ := exists_splitUnquoted behind (s ++ t)
      rw [hcons, hsplit, List.modifyHead_cons] at h
      obtain ⟨hfirst, rfl⟩ := List.cons.inj h
      rw [(List.cons.inj hfirst).2] at hsplit
      rw [hcons, ih hsplit, List.modifyHead_cons]

/-- What stands in a single piece behind a text that balances is a single piece. -/
theorem isWhole_of_append {p : List Char} (hp : Balanced p) (h : IsWhole (p ++ (s ++ t))) :
    IsWhole s := by
  unfold IsWhole at h ⊢
  obtain ⟨first, others, hsplit⟩ := exists_splitUnquoted none (s ++ t)
  rw [splitUnquoted_append hp, hsplit, List.modifyHead_cons] at h
  obtain ⟨hfirst, rfl⟩ := List.cons.inj h
  rw [List.append_cancel_left hfirst] at hsplit
  exact splitUnquoted_of_append hsplit

/-! ## What settings say -/

/-- What is said of a column, as far as it goes into its default or its note. -/
def IsRead : Setting → Prop
  | defaultValue value => ReadDefault value
  | note text => ∀ x ∈ text, isClosing x = false
  | _ => True

/-- A value is what stands behind the key and a colon, without the blanks around it. -/
theorem exists_of_valueOf? {key value : List Char} (h : valueOf? key s = some value) :
    ∃ front behind, s = front ++ ':' :: behind ∧
      Text.sameLetters (Text.trim front) key = true ∧ value = Text.trim behind := by
  unfold valueOf? at h
  split at h
  · next c behind hdrop =>
    rw [Option.ite_none_right_eq_some, Option.some.injEq] at h
    obtain ⟨hkey, rfl⟩ := h
    refine ⟨s.takeWhile (· != ':'), behind, ?_, hkey, rfl⟩
    obtain rfl : c = ':' := by
      have hhead := List.head?_dropWhile_not (· != ':') s
      rw [hdrop] at hhead
      simpa using hhead
    rw [← hdrop, List.takeWhile_append_dropWhile]
  · cases h

/-- Blanks are neither quotes nor commas. -/
theorem balanced_blanks (h : ∀ c ∈ s, isBlank c = true) : Balanced s := by
  refine Balanced.of_forall fun c hc => ?_
  have hblank := h c hc
  constructor
  · by_contra hquote
    rcases quote_cases (Bool.of_not_eq_false hquote) with rfl | rfl | rfl <;> cases hblank
  · rintro rfl
    cases hblank

/-- A key is written without quotes and commas. -/
theorem balanced_key (h : Text.sameLetters s "default".toList = true) : Balanced s := by
  refine Balanced.of_forall fun c hc => ?_
  have hmem : c.toLower ∈ "default".toList.map Char.toLower := by
    rw [← beq_iff_eq.1 h]
    exact List.mem_map_of_mem hc
  constructor
  · by_contra hquote
    rcases quote_cases (Bool.of_not_eq_false hquote) with rfl | rfl | rfl <;>
      exact absurd hmem (by decide)
  · rintro rfl
    exact absurd hmem (by decide)

/-- A default that is cut from a single piece is one that is read. -/
theorem readDefault_of_valueOf? {value : List Char} (hpiece : IsWhole piece)
    (hwithin : ∀ x ∈ piece, isClosing x = false)
    (h : valueOf? "default".toList (Text.trim piece) = some value) : ReadDefault value := by
  obtain ⟨front, behind, hs, hkey, rfl⟩ := exists_of_valueOf? h
  constructor
  · exact Text.trim_trim behind
  · obtain ⟨a, b, ha, -, htrim⟩ := Text.exists_blanks_trim piece
    obtain ⟨a', b', ha', hb', hfront⟩ := Text.exists_blanks_trim front
    obtain ⟨a'', b'', ha'', -, hbehind⟩ := Text.exists_blanks_trim behind
    -- In front of the value stand the key, its colon and blanks.
    have hbalanced : Balanced (a ++ (a' ++ (Text.trim front ++ (b' ++ ([':'] ++ a''))))) := by
      have hcolon : Balanced [':'] := Balanced.plain rfl (by decide) Balanced.nil
      exact (balanced_blanks ha).append ((balanced_blanks ha').append ((balanced_key hkey).append
        ((balanced_blanks hb').append (hcolon.append (balanced_blanks ha'')))))
    refine isWhole_of_append (t := b'' ++ b) hbalanced ?_
    have hsplit : piece = (a ++ (a' ++ (Text.trim front ++ (b' ++ ([':'] ++ a''))))) ++
        (Text.trim behind ++ (b'' ++ b)) := by
      conv_lhs => rw [htrim, hs, hfront, hbehind]
      simp
    rwa [← hsplit]
  · intro x hx
    refine hwithin x (Text.mem_of_mem_trim ?_)
    rw [hs]
    exact List.mem_append_right front (List.mem_cons_of_mem ':' (Text.mem_of_mem_trim hx))

/-- The text of a note is of the characters of its value. -/
theorem mem_of_mem_unquote {x : Char} (h : x ∈ unquote s) : x ∈ s := by
  unfold unquote at h
  split at h
  · split at h
    · exact List.mem_cons_of_mem _ (List.mem_of_mem_dropLast h)
    · exact h
  · cases h

/-- What a setting of a list says is read, if nothing in the list ends it. -/
theorem isRead_ofText (hs : s ∈ split list) (hlist : ∀ x ∈ list, isClosing x = false) :
    (ofText s).IsRead := by
  obtain ⟨hmem, -⟩ := List.mem_filter.1 hs
  obtain ⟨piece, hpiece, rfl⟩ := List.mem_map.1 hmem
  have hwithin : ∀ x ∈ piece, isClosing x = false :=
    fun x hx => hlist x (mem_of_mem_splitUnquoted hpiece x hx)
  have hwhole : IsWhole piece := by
    obtain ⟨first, others, hsplit⟩ := exists_splitUnquoted none list
    obtain ⟨hfirst, hothers⟩ := isWhole_of_splitUnquoted hsplit
    rw [hsplit] at hpiece
    rcases List.mem_cons.1 hpiece with rfl | hpiece
    · exact hfirst
    · exact hothers piece hpiece
  have hflag {setting : Setting} (h : flag? (Text.trim piece) = some setting) : setting.IsRead := by
    simp only [flag?] at h
    split_ifs at h <;> cases h <;> trivial
  unfold ofText
  split
  · next h => exact hflag h
  · split
    · next value hnote =>
      obtain ⟨front, behind, hs, -, rfl⟩ := exists_of_valueOf? hnote
      intro x hx
      refine hwithin x (Text.mem_of_mem_trim ?_)
      rw [hs]
      exact List.mem_append_right front
        (List.mem_cons_of_mem ':' (Text.mem_of_mem_trim (mem_of_mem_unquote hx)))
    · split
      · next hdefault => exact readDefault_of_valueOf? hwhole hwithin hdefault
      · trivial

end Setting

namespace ReadColumn

variable {c : Column} {s list : List Char}

/-- A column that is read stays so when a setting that is read is applied. -/
theorem apply (h : ReadColumn c) {setting : Setting} (hsetting : setting.IsRead) :
    ReadColumn (setting.apply c) := by
  obtain ⟨hname, htype, hdefault, hnote⟩ := h
  cases setting with
  | primaryKey => exact ⟨hname, htype, hdefault, hnote⟩
  | notNull => exact ⟨hname, htype, hdefault, hnote⟩
  | unique => exact ⟨hname, htype, hdefault, hnote⟩
  | increment => exact ⟨hname, htype, hdefault, hnote⟩
  | unknown => exact ⟨hname, htype, hdefault, hnote⟩
  | defaultValue value =>
    refine ⟨hname, htype, fun given hgiven => ?_, hnote⟩
    cases hgiven
    rw [String.toList_ofList]
    exact hsetting
  | note text =>
    refine ⟨hname, htype, hdefault, fun given hgiven => ?_⟩
    -- The first note counts.
    unfold Setting.apply at hgiven
    cases hfirst : c.note with
    | none =>
      rw [hfirst] at hgiven
      cases hgiven
      rw [String.toList_ofList]
      exact hsetting
    | some note =>
      rw [hfirst] at hgiven
      cases hgiven
      exact hnote _ hfirst

/-- A column that is read stays so when a list of settings is applied in which nothing ends it. -/
theorem applySettings (h : ReadColumn c) (hlist : ∀ x ∈ list, isClosing x = false) :
    ReadColumn (c.applySettings list) := by
  have hfold (settings : List (List Char)) (hsettings : ∀ s ∈ settings, (Setting.ofText s).IsRead)
      (c : Column) (h : ReadColumn c) :
      ReadColumn (settings.foldl (fun c s => (Setting.ofText s).apply c) c) := by
    induction settings generalizing c with
    | nil => exact h
    | cons s settings ih =>
      exact ih (fun x hx => hsettings x (List.mem_cons_of_mem s hx)) _
        (h.apply (hsettings s List.mem_cons_self))
  exact hfold _ (fun s hs => Setting.isRead_ofText hs hlist) c h

/-- The column that a line of a block declares is one that is read. -/
theorem of_ofLine? (hs : ∀ x ∈ s, x ≠ '\n' ∧ x ≠ '\x7d') (h : Column.ofLine? s = some c) :
    ReadColumn c := by
  unfold Column.ofLine? at h
  simp only [Option.bind_eq_bind, Option.bind_eq_some_iff] at h
  obtain ⟨-, -, ⟨name, behindName⟩, hname, blanks, hblanks, ⟨type, behindType⟩, htype, hc⟩ := h
  have hplain : ReadColumn { name := String.ofList name, type := String.ofList (Text.lower type) } := by
    refine ⟨?_, ⟨type, Scan.isIdentifier_of_ident? htype, String.toList_ofList⟩, ?_, ?_⟩
    · rw [String.toList_ofList]
      exact Scan.isIdentifier_of_ident? hname
    · exact fun value hvalue => nomatch hvalue
    · exact fun note hnote => nomatch hnote
  split at hc
  · next list rest hlist =>
    cases hc
    obtain ⟨behind, hbracket, huntil⟩ := Option.bind_eq_some_iff.1 hlist
    -- What is read stands in the line, and the list ends at its first closing bracket.
    have hsuffix : behind <:+ Text.trim s := by
      have hname' := (Scan.suffix_of_ident? hname).1
      have htype' := (Scan.suffix_of_ident? htype).1
      exact (Scan.suffix_of_char? hbracket).trans ((List.dropWhile_suffix isBlank).trans
        (htype'.trans ((Scan.suffix_of_blanks? hblanks).trans hname')))
    refine hplain.applySettings fun x hx => ?_
    have hmem : x ∈ s := by
      refine Text.mem_of_mem_trim (hsuffix.subset ?_)
      rw [Scan.eq_append_of_until? huntil]
      exact List.mem_append_left _ hx
    have hne : x ≠ ']' := by
      rintro rfl
      exact Scan.not_mem_of_until? huntil hx
    obtain ⟨hbreak, hbrace⟩ := hs x hmem
    simp [isClosing, hbreak, hbrace, hne]
  · cases hc
    exact hplain

end ReadColumn

/-- The lines of a text are of its characters, but have no breaks. -/
theorem Text.of_mem_lines {l s : List Char} (h : l ∈ Text.lines s) : '\n' ∉ l ∧ ∀ x ∈ l, x ∈ s := by
  induction s generalizing l with
  | nil =>
    obtain rfl := List.mem_singleton.1 h
    exact ⟨List.not_mem_nil, fun x hx => hx⟩
  | cons c s ih =>
    have hlater {l : List Char} (h : l ∈ Text.lines s) : '\n' ∉ l ∧ ∀ x ∈ l, x ∈ c :: s :=
      ⟨(ih h).1, fun x hx => List.mem_cons_of_mem c ((ih h).2 x hx)⟩
    by_cases hc : c = '\n'
    · subst hc
      have hbreak : Text.lines ('\n' :: s) = [] :: Text.lines s := Text.lines_append_break [] s
      rw [hbreak] at h
      rcases List.mem_cons.1 h with rfl | h
      · exact ⟨List.not_mem_nil, fun x hx => nomatch hx⟩
      · exact hlater h
    · have hfront : Text.lines (c :: s) = (Text.lines s).modifyHead ([c] ++ ·) :=
        Text.lines_append (p := [c]) (by simpa using Ne.symm hc) s
      rw [hfront] at h
      cases hlines : Text.lines s with
      | nil =>
        rw [hlines] at h
        cases h
      | cons first others =>
        rw [hlines, List.modifyHead_cons] at h
        rw [hlines] at hlater
        rcases List.mem_cons.1 h with rfl | h
        · obtain ⟨hbreak, hmem⟩ := hlater List.mem_cons_self
          refine ⟨?_, ?_⟩
          · simpa [Ne.symm hc] using hbreak
          · simpa using hmem
        · exact hlater (List.mem_cons_of_mem first h)

/-- The columns that a text declares are such as are read. -/
theorem Schema.readColumn_declaredBy (s : List Char) :
    ∀ t ∈ (Schema.declaredBy s).tables, ∀ c ∈ t.columns, ReadColumn c := by
  intro t ht c hc
  obtain ⟨b, hb, rfl⟩ := List.mem_map.1 ht
  obtain ⟨text, rest, hread⟩ := exists_of_mem_constructs_orStay hb
  obtain ⟨line, hline, hcolumn⟩ := List.mem_filterMap.1 hc
  obtain ⟨hbreak, hbody⟩ := Text.of_mem_lines hline
  -- The body of a block ends at the first closing brace.
  have hbrace : '\x7d' ∉ b.body := by
    obtain ⟨-, -, ⟨-, -, -, -, hnot⟩, -⟩ := (TableBlock.recognizes_tail?.reads text b rest).1 hread
    exact hnot
  refine ReadColumn.of_ofLine? (fun x hx => ⟨?_, ?_⟩) hcolumn
  · rintro rfl
    exact hbreak hx
  · rintro rfl
    exact hbrace (hbody _ hx)

end SchemaDiagram
