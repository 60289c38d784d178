import SchemaDiagram.Import
import SchemaDiagram.Proofs.Schema.Grammar
import SchemaDiagram.Proofs.Text.Standing

/-!
# Which schema text is imported

Schema text is imported as it is, without positions. Whether it is imported at all depends on the
letters `Table ` or `table ` anywhere in it (`Imported.exists_ofDbml_iff`), and whether it declares a
table depends on the blocks that stand in it (`Schema.tables_ne_nil_iff`). The letters may begin a
block that stands there, or else they are stray: they are in a longer word, or no block is completed
behind them (`Imported.mentions_iff`). A block may begin with the letters, or else it is spelled
otherwise (`Imported.exists_stands_iff`). So the two agree on every text that has a block which begins
with the letters. They can only disagree in two ways: all blocks are spelled otherwise and no letters
are stray, or all letters are stray and there is no block (`Imported.ofDbml_agrees`).
-/

namespace SchemaDiagram

/-- A text has constructs exactly if one stands in it. -/
theorem Cursor.occurrences_ne_nil_iff {α : Type} {keyword : Keyword}
    {form : List Char → α → Prop} {read? : List Char → Option (α × List Char)}
    (hword : IsWord keyword.letters) (hread : Scan.Recognizes read? form) (s : List Char) :
    (start s).occurrences keyword (Scan.orStay read?) ≠ [] ↔ ∃ x, Stands keyword form s x := by
  have hleftmost := (start s).leftmost_occurrences hword hread
  generalize (start s).occurrences keyword (Scan.orStay read?) = found at hleftmost
  cases found with
  | nil =>
    obtain ⟨hearlier⟩ := hleftmost
    simp only [ne_eq, not_true_eq_false, false_iff, not_exists]
    exact fun x hx => absurd (hearlier x hx) (Nat.not_lt_zero _)
  | cons o found =>
    obtain _ | ⟨hhere⟩ := hleftmost
    exact ⟨fun _ => ⟨_, hhere⟩, fun _ => List.cons_ne_nil o found⟩

/-- A text declares a table exactly if a table block stands in it. -/
theorem Schema.tables_ne_nil_iff (text : String) :
    (Schema.parse text).tables ≠ [] ↔
      ∃ x, Stands TableBlock.keyword TableBlock.Completes text.toList x := by
  have hlength : (Schema.parse text).tables.length = (TableBlock.findAll text.toList).length := by
    rw [Schema.parse, Schema.length_tables_markForeignKeys, List.length_map]
  rw [← Cursor.occurrences_ne_nil_iff TableBlock.isWord_keyword TableBlock.recognizes_tail?,
    ← List.length_pos_iff, hlength, List.length_pos_iff]
  rfl

namespace Imported

open Character

/-- The usual spellings of the keyword of a table block, each with a space behind it. -/
def spellings : List (List Char) :=
  ["Table ".toList, "table ".toList]

/-- One of the usual spellings is in the text, be it as a keyword or not. -/
def Mentions (s : List Char) : Prop :=
  ∃ spelling ∈ spellings, spelling <:+: s

/-- A text is imported exactly if one of the usual spellings is in it. -/
theorem exists_ofDbml_iff {text : String} :
    (∃ imported, ofDbml text = .ok imported) ↔ Mentions text.toList := by
  have hmentions : Mentions text.toList ↔
      (Text.occursIn "Table ".toList text.toList ||
        Text.occursIn "table ".toList text.toList) = true := by
    simp only [Mentions, spellings, List.exists_mem_cons_iff, List.not_mem_nil, Bool.or_eq_true,
      Text.occursIn_iff]
    simp
  rw [hmentions]
  unfold ofDbml
  dsimp only
  split
  · next h => exact ⟨fun _ => h, fun _ => ⟨_, rfl⟩⟩
  · next h => exact ⟨nofun, fun hletters => absurd hletters h⟩

/-- A text that is imported stays as it is, and nodes are given no positions. -/
theorem eq_of_ofDbml {text : String} {imported : Imported} (h : ofDbml text = .ok imported) :
    imported = ⟨text, none⟩ := by
  unfold ofDbml at h
  dsimp only at h
  split at h
  · exact (Except.ok.inj h).symm
  · cases h

/-- A table block stands in the text with its keyword in one of the usual spellings. -/
def HasUsualBlock (s : List Char) : Prop :=
  ∃ x p rest, Stands TableBlock.keyword TableBlock.Completes s x ∧
    Cursor.byteLength p = x.start ∧ ∃ spelling ∈ spellings, s = p ++ (spelling ++ rest)

/-- A table block stands in the text whose keyword is in other letters, or has another blank than a
space behind it. -/
def HasOtherBlock (s : List Char) : Prop :=
  ∃ x p w c rest, Stands TableBlock.keyword TableBlock.Completes s x ∧
    Cursor.byteLength p = x.start ∧ s = p ++ (w ++ c :: rest) ∧
    Text.sameLetters w TableBlock.keyword.letters = true ∧ isBlank c = true ∧ w ++ [c] ∉ spellings

/-- One of the usual spellings is in the text without being that of a block. -/
inductive HasStrayLetters (s : List Char) : Prop where
  /-- It is in a longer word. -/
  | inWord {p spelling rest : List Char} (usual : spelling ∈ spellings)
    (text : s = p ++ (spelling ++ rest)) (front : p.getLast?.any isIdent = true)
  /-- What is behind it does not complete a block. -/
  | incomplete {p spelling rest : List Char} (usual : spelling ∈ spellings)
    (text : s = p ++ (spelling ++ rest))
    (unfinished : ∀ t rest' b, ' ' :: rest = t ++ rest' → ¬TableBlock.Completes t b)

/-- The usual spellings are the keyword and a space. -/
theorem exists_of_mem_spellings {spelling : List Char} (h : spelling ∈ spellings) :
    ∃ w, spelling = w ++ [' '] ∧ Text.sameLetters w TableBlock.keyword.letters = true := by
  simp only [spellings, List.mem_cons, List.not_mem_nil, or_false] at h
  rcases h with rfl | rfl
  · exact ⟨"Table".toList, rfl, rfl⟩
  · exact ⟨"table".toList, rfl, rfl⟩

/-- Where one of the usual spellings is, there is a block or the letters are stray. -/
theorem mentions_iff {s : List Char} : Mentions s ↔ HasUsualBlock s ∨ HasStrayLetters s := by
  constructor
  · rintro ⟨spelling, hspelling, p, rest, hs⟩
    rw [List.append_assoc] at hs
    by_cases hp : p.getLast?.any isIdent = true
    · exact .inr (.inWord hspelling hs.symm hp)
    by_cases hcompleted : ∃ t rest' b, ' ' :: rest = t ++ rest' ∧ TableBlock.Completes t b
    · obtain ⟨t, rest', b, ht, hform⟩ := hcompleted
      obtain ⟨w, hw, hsame⟩ := exists_of_mem_spellings hspelling
      -- A block ends with a brace, so that no identifier goes on behind it.
      have hends : Breaks t rest' := by
        obtain ⟨-, -, -, -, -⟩ := hform
        refine Breaks.of_last ?_
        simp only [← List.append_assoc, ← List.cons_append, List.getLast?_concat]
        rfl
      refine .inl ⟨⟨Cursor.byteLength p, Cursor.byteLength (p ++ (w ++ t)), b⟩, p, rest, ?_, rfl,
        spelling, hspelling, hs.symm⟩
      refine .intro ?_ rfl rfl (Bool.eq_false_iff.2 hp) hsame hform hends
      rw [← ht, ← hs, hw, List.append_assoc, List.singleton_append]
    · refine .inr (.incomplete hspelling hs.symm fun t rest' b ht hform => ?_)
      exact hcompleted ⟨t, rest', b, ht, hform⟩
  · rintro (⟨x, p, rest, -, -, spelling, hspelling, rfl⟩ | hstray)
    · exact ⟨spelling, hspelling, List.infix_append' _ _ _⟩
    · obtain ⟨hspelling, rfl, -⟩ | ⟨hspelling, rfl, -⟩ := hstray
      · exact ⟨_, hspelling, List.infix_append' _ _ _⟩
      · exact ⟨_, hspelling, List.infix_append' _ _ _⟩

/-- Where a block stands, it is spelled in the usual way or otherwise. -/
theorem exists_stands_iff {s : List Char} :
    (∃ x, Stands TableBlock.keyword TableBlock.Completes s x) ↔
      HasUsualBlock s ∨ HasOtherBlock s := by
  constructor
  · rintro ⟨x, hx⟩
    obtain ⟨htext, hstart, -, -, hsame, hform, -⟩ := id hx
    rename_i p w t rest
    obtain ⟨c, u, rfl, hc⟩ : ∃ c u, t = c :: u ∧ isBlank c = true := by
      generalize x.value = b at hform
      obtain ⟨gap_ne, isBlank_gap, -, -, -⟩ := hform
      obtain ⟨c, gap, rfl⟩ := List.exists_cons_of_ne_nil gap_ne
      exact ⟨c, _, rfl, isBlank_gap c List.mem_cons_self⟩
    have hs : s = p ++ (w ++ c :: (u ++ rest)) := htext
    by_cases husual : w ++ [c] ∈ spellings
    · exact .inl ⟨x, p, u ++ rest, hx, hstart, w ++ [c], husual, by simpa using hs⟩
    · exact .inr ⟨x, p, w, c, u ++ rest, hx, hstart, hs, hsame, hc, husual⟩
  · rintro (⟨x, -, -, hx, -⟩ | ⟨x, -, -, -, -, hx, -⟩)
    · exact ⟨x, hx⟩
    · exact ⟨x, hx⟩

/-- All blocks that stand in the text are spelled otherwise, and the usual spellings are nowhere
else. -/
def Overlooked (s : List Char) : Prop :=
  HasOtherBlock s ∧ ¬HasUsualBlock s ∧ ¬HasStrayLetters s

/-- One of the usual spellings is in the text, but only where it does not begin a block, and no block
is spelled otherwise. -/
def Mistaken (s : List Char) : Prop :=
  HasStrayLetters s ∧ ¬HasUsualBlock s ∧ ¬HasOtherBlock s

/-- Schema text is imported as it is and without positions. It is imported exactly if it declares a
table, unless it is overlooked or mistaken. A text with a block in one of the usual spellings is
imported and declares a table. -/
theorem ofDbml_agrees (text : String) :
    (∀ imported, ofDbml text = .ok imported → imported = ⟨text, none⟩) ∧
    (((∃ imported, ofDbml text = .ok imported) ↔ (Schema.parse text).tables ≠ []) ↔
      ¬Overlooked text.toList ∧ ¬Mistaken text.toList) ∧
    (HasUsualBlock text.toList →
      (∃ imported, ofDbml text = .ok imported) ∧ (Schema.parse text).tables ≠ []) := by
  rw [exists_ofDbml_iff, Schema.tables_ne_nil_iff, mentions_iff, exists_stands_iff]
  refine ⟨fun _ => eq_of_ofDbml, ?_, fun husual => ⟨.inl husual, .inl husual⟩⟩
  unfold Overlooked Mistaken
  tauto

/-- A text with two blocks, one of which is in a usual spelling. -/
def twoSpellings : String :=
  "TABLE users \x7b\n  id integer [pk]\n\x7d\nTable posts \x7b\n  id integer\n  title text\n\x7d\n"

/-- That text is imported as it is, and both blocks are read from it. -/
theorem ofDbml_agrees_twoSpellings :
    HasUsualBlock twoSpellings.toList ∧ HasOtherBlock twoSpellings.toList ∧
      (∃ imported, ofDbml twoSpellings = .ok imported) ∧
      (Schema.parse twoSpellings).tables.map (fun t => (t.name, t.columns.map (·.name))) =
        [("users", ["id"]), ("posts", ["id", "title"])] := by
  have hfound := (Cursor.leftmost_iff TableBlock.isWord_keyword TableBlock.recognizes_tail?
    twoSpellings.toList _).2 rfl
  have husual : HasUsualBlock twoSpellings.toList :=
    ⟨⟨34, 75, ⟨"posts".toList, "\n  id integer\n  title text\n".toList⟩⟩,
      "TABLE users \x7b\n  id integer [pk]\n\x7d\n".toList,
      "posts \x7b\n  id integer\n  title text\n\x7d\n".toList,
      hfound.stands_of_mem (by decide +kernel), by decide +kernel, "Table ".toList,
      List.mem_cons_self, by decide +kernel⟩
  have hother : HasOtherBlock twoSpellings.toList :=
    ⟨⟨0, 33, ⟨"users".toList, "\n  id integer [pk]\n".toList⟩⟩, [], "TABLE".toList, ' ',
      "users \x7b\n  id integer [pk]\n\x7d\n".toList ++
        "Table posts \x7b\n  id integer\n  title text\n\x7d\n".toList,
      hfound.stands_of_mem (by decide +kernel), by decide +kernel, by decide +kernel,
      by decide +kernel, by decide +kernel, by decide +kernel⟩
  exact ⟨husual, hother, ((ofDbml_agrees _).2.2 husual).1, by decide +kernel⟩

/-- Blocks are overlooked if their keyword is in capitals or something else than a space is behind
it, and texts are mistaken that have the letters in another word, in a comment or in a block without
an end. -/
example :
    (∀ text ∈ ["TABLE t \x7b\n  id int\n\x7d", "Table\tt \x7b\n  id int\n\x7d"],
      (ofDbml text).isOk = false ∧ (Schema.parse text).tables ≠ []) ∧
    (∀ text ∈ ["a vegetable garden", "// Table of contents", "Table t \x7b\n  id int\n"],
      (ofDbml text).isOk = true ∧ (Schema.parse text).tables = []) := by
  decide +kernel

end Imported

end SchemaDiagram
