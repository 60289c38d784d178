import SchemaDiagram.Proofs.Text.Blank
import SchemaDiagram.Proofs.Text.Case
import SchemaDiagram.Schema.Print

/-!
# Settings that are read back

In a `Balanced` text every quote is closed by its like and commas stand in quotes. Such texts with
commas between them are split at just those commas (`split_intercalate`), so the settings of a
column are found again, and each of them says what it was written for (`ofText_default`,
`ofText_note`).
-/

namespace SchemaDiagram

open Character

namespace Setting

/-- The texts in which each quote that is opened is closed by the same one, and commas stand only in
quotes. -/
inductive Balanced : List Char → Prop
  /-- The empty text. -/
  | nil : Balanced []
  /-- A character that is neither a quote nor a comma, in front of such a text. -/
  | plain {c : Char} {s : List Char} (hquote : isQuote c = false) (hcomma : c ≠ ',')
    (hs : Balanced s) : Balanced (c :: s)
  /-- A text in quotes, in front of such a text. -/
  | quoted {q : Char} {inner s : List Char} (hquote : isQuote q = true) (hinner : q ∉ inner)
    (hs : Balanced s) : Balanced (q :: (inner ++ q :: s))

variable {s t : List Char}

/-! ## Splitting -/

/-- A text without quotes and commas balances. -/
theorem Balanced.of_forall (h : ∀ c ∈ s, isQuote c = false ∧ c ≠ ',') : Balanced s := by
  induction s with
  | nil => exact Balanced.nil
  | cons c s ih =>
    obtain ⟨hquote, hcomma⟩ := h c List.mem_cons_self
    exact Balanced.plain hquote hcomma (ih fun x hx => h x (List.mem_cons_of_mem _ hx))

/-- Texts that balance do so behind each other. -/
theorem Balanced.append (hs : Balanced s) (ht : Balanced t) : Balanced (s ++ t) := by
  induction hs with
  | nil => exact ht
  | plain hquote hcomma _ ih => exact Balanced.plain hquote hcomma ih
  | @quoted q inner s hquote hinner _ ih =>
    rw [List.cons_append, List.append_assoc, List.cons_append]
    exact Balanced.quoted hquote hinner ih

/-- A text in quotes up to the closing one is part of a piece. -/
theorem splitUnquoted_quoted {q : Char} {inner : List Char} (hinner : q ∉ inner)
    (s : List Char) :
    splitUnquoted (some q) (inner ++ q :: s) =
      (splitUnquoted none s).modifyHead (inner ++ q :: ·) := by
  induction inner with
  | nil =>
    rw [List.nil_append, splitUnquoted, if_pos (by simp)]
    rfl
  | cons c inner ih =>
    rw [List.mem_cons, not_or] at hinner
    rw [List.cons_append, splitUnquoted, if_neg (by simpa using Ne.symm hinner.1), ih hinner.2,
      List.modifyHead_modifyHead]
    rfl

/-- A text that balances is part of a piece. -/
theorem splitUnquoted_append (hs : Balanced s) (t : List Char) :
    splitUnquoted none (s ++ t) = (splitUnquoted none t).modifyHead (s ++ ·) := by
  induction hs with
  | nil =>
    have hid : (fun x : List Char => [] ++ x) = id := rfl
    rw [List.nil_append, hid, List.modifyHead_id]
    rfl
  | @plain c s hquote hcomma _ ih =>
    rw [List.cons_append, splitUnquoted, if_neg (by simpa using hcomma), hquote,
      if_neg (by decide), ih, List.modifyHead_modifyHead]
    rfl
  | @quoted q inner s hquote hinner _ ih =>
    have hcomma : q ≠ ',' := by
      rintro rfl
      exact absurd hquote (by decide)
    rw [List.cons_append, splitUnquoted, if_neg (by simpa using hcomma), hquote, if_pos rfl,
      List.append_assoc, List.cons_append, splitUnquoted_quoted hinner, ih,
      List.modifyHead_modifyHead, List.modifyHead_modifyHead]
    congr 1
    funext x
    simp

/-- No comma of a text stands outside quotes. Unlike in a balanced text, a quote may be open at its
end. -/
def IsWhole (s : List Char) : Prop :=
  splitUnquoted none s = [s]

/-- A text that balances is a single piece. -/
theorem Balanced.isWhole (hs : Balanced s) : IsWhole s := by
  have h := splitUnquoted_append hs []
  rwa [List.append_nil, splitUnquoted, List.modifyHead_cons, List.append_nil] at h

/-- A text without commas outside quotes has none behind a text that balances. -/
theorem Balanced.isWhole_append (hs : Balanced s) (ht : IsWhole t) : IsWhole (s ++ t) := by
  unfold IsWhole at ht ⊢
  rw [splitUnquoted_append hs, ht]
  rfl

/-- A comma behind a text that balances ends its piece. -/
theorem splitUnquoted_comma (hs : Balanced s) (t : List Char) :
    splitUnquoted none (s ++ ',' :: t) = s :: splitUnquoted none t := by
  rw [splitUnquoted_append hs, splitUnquoted, if_pos (beq_self_eq_true ','), List.modifyHead_cons,
    List.append_nil]

/-- A space in front of a text does not change its trimmed pieces. -/
theorem map_trim_splitUnquoted_space (t : List Char) :
    (splitUnquoted none (' ' :: t)).map Text.trim = (splitUnquoted none t).map Text.trim := by
  have hspace : Balanced [' '] := Balanced.plain rfl (by decide) Balanced.nil
  have happend := splitUnquoted_append hspace t
  rw [List.singleton_append] at happend
  rw [happend]
  cases splitUnquoted none t with
  | nil => rfl
  | cons piece pieces =>
    rw [List.modifyHead_cons, List.map_cons, List.map_cons,
      Text.trim_blanks_append (List.forall_mem_singleton.2 rfl)]

/-- Settings with commas between them are the pieces, up to the blanks around them. In the last one
a quote may be left open. -/
theorem map_trim_splitUnquoted_intercalate {settings : List (List Char)} (hne : settings ≠ [])
    (hbalanced : ∀ s ∈ settings.dropLast, Balanced s) (hlast : ∀ s ∈ settings.getLast?, IsWhole s) :
    (splitUnquoted none (", ".toList.intercalate settings)).map Text.trim =
      settings.map Text.trim := by
  induction settings with
  | nil => exact absurd rfl hne
  | cons a settings ih =>
    cases settings with
    | nil =>
      have ha : splitUnquoted none a = [a] := hlast a rfl
      rw [List.intercalate_singleton, ha]
    | cons b settings =>
      rw [List.dropLast_cons_cons] at hbalanced
      rw [List.getLast?_cons_cons] at hlast
      have hrest := ih (List.cons_ne_nil _ _) (fun s hs => hbalanced s (List.mem_cons_of_mem _ hs))
        hlast
      rw [List.intercalate_cons_cons, List.append_assoc]
      show (splitUnquoted none (a ++ ',' :: ' ' ::
        ", ".toList.intercalate (b :: settings))).map Text.trim = _
      rw [splitUnquoted_comma (hbalanced a List.mem_cons_self), List.map_cons,
        map_trim_splitUnquoted_space, hrest]
      rfl

/-- Settings with commas between them are found again, without blanks around them. In the last one a
quote may be left open. -/
theorem split_intercalate {settings : List (List Char)}
    (hbalanced : ∀ s ∈ settings.dropLast, Balanced s) (hlast : ∀ s ∈ settings.getLast?, IsWhole s)
    (htrim : ∀ s ∈ settings, Text.trim s ≠ []) :
    split (", ".toList.intercalate settings) = settings.map Text.trim := by
  rcases eq_or_ne settings [] with rfl | hne
  · rfl
  -- No setting is blank, so none of the pieces is left out.
  have hfilter : ∀ s ∈ settings.map Text.trim, decide (s ≠ []) = true := by
    intro s hs
    obtain ⟨a, ha, rfl⟩ := List.mem_map.1 hs
    simpa using htrim a ha
  unfold split
  rw [map_trim_splitUnquoted_intercalate hne hbalanced hlast, List.filter_eq_self.2 hfilter]

/-! ## What a setting says -/

/-- The characters of a text other than blanks are in its words. -/
theorem mem_words {c : Char} (hc : isBlank c = false) (h : c ∈ s) : ∃ w ∈ Text.words s, c ∈ w := by
  -- A character that does not cut stays in a piece, and that piece is not empty.
  have hpiece : ∃ w ∈ s.splitOnP isBlank, c ∈ w := by
    induction s with
    | nil => cases h
    | cons x s ih =>
      rw [List.splitOnP_cons_eq_if_modifyHead]
      rcases List.mem_cons.1 h with rfl | h
      · rw [if_neg (by simp [hc])]
        cases hs : s.splitOnP isBlank with
        | nil => exact absurd hs (List.splitOnP_ne_nil _ _)
        | cons w ws => exact ⟨c :: w, List.mem_cons_self, List.mem_cons_self⟩
      · obtain ⟨w, hw, hcw⟩ := ih h
        split
        · exact ⟨w, List.mem_cons_of_mem _ hw, hcw⟩
        · cases hs : s.splitOnP isBlank with
          | nil =>
            rw [hs] at hw
            cases hw
          | cons v vs =>
            rw [hs] at hw
            rcases List.mem_cons.1 hw with rfl | hw
            · exact ⟨x :: w, List.mem_cons_self, List.mem_cons_of_mem _ hcw⟩
            · exact ⟨w, List.mem_cons_of_mem _ hw, hcw⟩
  obtain ⟨w, hw, hcw⟩ := hpiece
  refine ⟨w, List.mem_filter.2 ⟨hw, ?_⟩, hcw⟩
  simpa using List.ne_nil_of_mem hcw

/-- The characters of the members of a list are in the joined list. -/
theorem mem_intercalate {separator w : List Char} {ws : List (List Char)} {c : Char} (hw : w ∈ ws)
    (hc : c ∈ w) : c ∈ separator.intercalate ws := by
  induction ws with
  | nil => cases hw
  | cons a ws ih =>
    cases ws with
    | nil =>
      rw [List.intercalate_singleton, ← List.mem_singleton.1 hw]
      exact hc
    | cons b ws =>
      rw [List.intercalate_cons_cons]
      rcases List.mem_cons.1 hw with rfl | hw
      · exact List.mem_append_left _ (List.mem_append_left _ hc)
      · exact List.mem_append_right _ (ih hw)

/-- A text with a colon is no flag. -/
theorem flag?_of_colon (h : ':' ∈ s) : flag? s = none := by
  -- Lower case and single spaces leave the colon in the text.
  have hmem : ':' ∈ normalize s := by
    obtain ⟨w, hw, hcw⟩ := mem_words (by decide) h
    exact Text.mem_lower (by decide) (by decide) (mem_intercalate hw hcw)
  have hne (flag : String) (hflag : ':' ∉ flag.toList) : normalize s ≠ flag.toList := by
    intro heq
    rw [heq] at hmem
    exact hflag hmem
  unfold flag?
  simp only [hne "pk" (by decide), hne "primary key" (by decide), hne "primarykey" (by decide),
    hne "not null" (by decide), hne "notnull" (by decide), hne "unique" (by decide),
    hne "increment" (by decide), or_self, if_false]

/-- The key in front of the first colon and the value behind it are read without the blanks around
them. -/
theorem valueOf?_append {key : List Char} (hkey : ':' ∉ key) (word value : List Char) :
    valueOf? word (key ++ ':' :: value) =
      if Text.sameLetters (Text.trim key) word then some (Text.trim value) else none := by
  have hall : ∀ c ∈ key, (c != ':') = true := by
    intro c hc
    rw [bne_iff_ne]
    rintro rfl
    exact hkey hc
  have htake : (key ++ ':' :: value).takeWhile (· != ':') = key := by
    rw [List.takeWhile_append_of_pos hall]
    simp
  have hdrop : (key ++ ':' :: value).dropWhile (· != ':') = ':' :: value := by
    rw [List.dropWhile_append_of_pos hall]
    simp
  unfold valueOf?
  rw [hdrop, htake]

/-- A value in quotes is read without them. -/
theorem unquote_quoted {q : Char} (hq : isQuote q = true) (inner : List Char) :
    unquote (q :: (inner ++ [q])) = inner := by
  unfold unquote
  simp [hq]

/-- A default is read back. -/
theorem ofText_default {value : List Char} (htrim : Text.trim value = value) :
    ofText (Text.trim ("default: ".toList ++ value)) = defaultValue value := by
  have htext : ∃ behind, Text.trim ("default: ".toList ++ value) =
      "default".toList ++ ':' :: behind ∧ Text.trim behind = value := by
    obtain ⟨-, hlast⟩ := Text.ends_of_trim htrim
    by_cases hnil : value = []
    · -- An empty default leaves a blank behind the colon, which is trimmed with the setting.
      rw [hnil]
      have hspace : "default: ".toList ++ [] = "default:".toList ++ [' '] := rfl
      refine ⟨[], ?_, rfl⟩
      rw [hspace, Text.trim_append_blanks (List.forall_mem_singleton.2 rfl),
        Text.trim_of_ends rfl rfl]
      rfl
    · refine ⟨' ' :: value, Text.trim_of_ends rfl ?_, ?_⟩
      · rw [List.getLast?_append, List.getLast?_eq_some_getLast hnil] at *
        exact hlast
      · exact (Text.trim_blanks_append (b := [' ']) (List.forall_mem_singleton.2 rfl)).trans htrim
  obtain ⟨behind, htext, hbehind⟩ := htext
  -- With its colon the text is no flag, and its key is not that of a note.
  have hcolon : ':' ∈ "default".toList ++ ':' :: behind := by simp
  have hnote : valueOf? "note".toList ("default".toList ++ ':' :: behind) = none := by
    rw [valueOf?_append (by decide)]
    rfl
  have hdefault : valueOf? "default".toList ("default".toList ++ ':' :: behind) = some value := by
    rw [valueOf?_append (by decide), hbehind]
    rfl
  unfold ofText
  rw [htext, flag?_of_colon hcolon]
  simp only [hnote, hdefault]

/-- A note stands in quotes of one kind. -/
theorem quoteNote_eq (note : List Char) :
    ∃ q, isQuote q = true ∧ Column.quoteNote note = q :: (note ++ [q]) := by
  unfold Column.quoteNote
  split
  · exact ⟨'"', rfl, rfl⟩
  · exact ⟨'\'', rfl, rfl⟩

/-- The quote of a note is not in it. -/
theorem exists_quoteNote {note : List Char} (hnote : ¬('\'' ∈ note ∧ '"' ∈ note)) :
    ∃ q, isQuote q = true ∧ q ∉ note ∧ Column.quoteNote note = q :: (note ++ [q]) := by
  unfold Column.quoteNote
  split
  · next h => exact ⟨'"', rfl, fun hdouble => hnote ⟨h, hdouble⟩, rfl⟩
  · next h => exact ⟨'\'', rfl, h, rfl⟩

/-- The quotes for texts are these three. -/
theorem quote_cases {q : Char} (hq : isQuote q = true) : q = '\'' ∨ q = '"' ∨ q = '\x60' := by
  simpa [isQuote, or_assoc] using hq

/-- A note is read back. -/
theorem ofText_note (text : List Char) :
    ofText (Text.trim ("note: ".toList ++ Column.quoteNote text)) = note text := by
  obtain ⟨q, hq, hquoted⟩ := quoteNote_eq text
  have hblank : isBlank q = false := by
    rcases quote_cases hq with rfl | rfl | rfl <;> rfl
  have htrim : Text.trim ("note: ".toList ++ Column.quoteNote text) =
      "note".toList ++ ':' :: ' ' :: (q :: (text ++ [q])) := by
    rw [hquoted]
    refine Text.trim_of_ends rfl ?_
    rw [← List.cons_append, ← List.append_assoc, List.getLast?_concat]
    exact hblank
  have hvalue : Text.trim (' ' :: (q :: (text ++ [q]))) = q :: (text ++ [q]) := by
    refine (Text.trim_blanks_append (b := [' ']) (List.forall_mem_singleton.2 rfl)).trans ?_
    refine Text.trim_of_ends ?_ ?_
    · simpa using hblank
    · rw [← List.cons_append, List.getLast?_concat]
      exact hblank
  -- With its colon the text is no flag, and its key is that of a note.
  have hcolon : ':' ∈ "note".toList ++ ':' :: ' ' :: (q :: (text ++ [q])) := by simp
  have hnote : valueOf? "note".toList ("note".toList ++ ':' :: ' ' :: (q :: (text ++ [q]))) =
      some (q :: (text ++ [q])) := by
    rw [valueOf?_append (by decide), hvalue]
    rfl
  unfold ofText
  rw [htrim, flag?_of_colon hcolon]
  simp only [hnote, unquote_quoted hq]

end Setting

end SchemaDiagram
