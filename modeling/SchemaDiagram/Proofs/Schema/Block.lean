import SchemaDiagram.Proofs.Schema.Reference

/-!
# Blocks as they are written

A table block begins with its front, the text up to the body: the keyword, the name and the opening
brace, with blanks in between (`TableBlock.Front`). Behind a front a block is read up to the first
closing brace, whatever is in the body (`TableBlock.Front.tail?_behindWord`).
-/

namespace SchemaDiagram

open Character

/-- The text up to the body of a block: the keyword, the name and the opening brace, with blanks in
between. -/
structure TableBlock.Front where
  /-- The keyword in some case. -/
  word : List Char
  /-- What is between the keyword and the name. -/
  gap : List Char
  /-- The name of the table. -/
  name : List Char
  /-- What is between the name and the brace. -/
  gapBehind : List Char
  isKeyword : Text.sameLetters word keyword.letters = true
  gap_ne : gap ≠ []
  isBlank_gap : ∀ c ∈ gap, isBlank c = true
  isIdentifier_name : IsIdentifier name
  isBlank_gapBehind : ∀ c ∈ gapBehind, isBlank c = true

namespace TableBlock.Front

variable (f : Front) {body p s : List Char}

/-- The text behind the keyword. -/
def behindWord : List Char :=
  f.gap ++ (f.name ++ (f.gapBehind ++ ['{']))

/-- The text itself. -/
def text : List Char :=
  f.word ++ f.behindWord

/-- No identifier goes on behind the keyword. -/
theorem stops_behindWord (s : List Char) : Stops (f.behindWord ++ s) := by
  obtain ⟨c, gap, hgap⟩ := List.exists_cons_of_ne_nil f.gap_ne
  have hc := f.isBlank_gap c (hgap ▸ List.mem_cons_self)
  unfold behindWord
  rw [hgap]
  exact stops_cons.2 (isIdent_of_isBlank hc)

/-- A block is read up to the first closing brace. -/
theorem tail?_behindWord (hbody : '}' ∉ body) (s : List Char) :
    tail? (f.behindWord ++ (body ++ '}' :: s)) = some (⟨f.name, body⟩, s) := by
  have hskip {b : List Char} (hb : ∀ c ∈ b, isBlank c = true) (s : List Char) :
      Scan.skipBlanks (b ++ s) = Scan.skipBlanks s := List.dropWhile_append_of_pos hb
  obtain ⟨c, gap, hgap⟩ := List.exists_cons_of_ne_nil f.gap_ne
  have hblank := f.isBlank_gap
  rw [hgap] at hblank
  have hblanks (s : List Char) : Scan.blanks? (f.gap ++ (f.name ++ s)) = some (f.name ++ s) := by
    rw [hgap, List.cons_append, Scan.blanks?_cons (hblank c List.mem_cons_self),
      hskip fun d hd => hblank d (List.mem_cons_of_mem c hd),
      Scan.skipBlanks_identifier f.isIdentifier_name]
  have hstops (s : List Char) : Stops (f.gapBehind ++ '{' :: s) := by
    have hall := f.isBlank_gapBehind
    cases hgap' : f.gapBehind with
    | nil => rfl
    | cons d gap' =>
      rw [hgap'] at hall
      exact stops_cons.2 (isIdent_of_isBlank (hall d List.mem_cons_self))
  have hbrace (s : List Char) : Scan.skipBlanks (f.gapBehind ++ '{' :: s) = '{' :: s := by
    rw [hskip f.isBlank_gapBehind, Scan.skipBlanks_of_not rfl]
  have hsplit : f.behindWord ++ (body ++ '}' :: s) =
      f.gap ++ (f.name ++ (f.gapBehind ++ '{' :: (body ++ '}' :: s))) := by
    unfold behindWord
    simp only [List.append_assoc, List.singleton_append]
  unfold tail?
  rw [hsplit, hblanks]
  simp only [Option.bind_eq_bind, Option.bind_some, hbrace, Scan.char?_self,
    Scan.ident?_append f.isIdentifier_name (hstops _), Scan.until?_singleton hbody]
  rfl

/-- A block in front of a text is its first one. -/
theorem constructs_text (hbody : '}' ∉ body) (s : List Char) :
    constructs keyword (Scan.orStay tail?) (f.text ++ (body ++ '}' :: s)) =
      ⟨f.name, body⟩ :: constructs keyword (Scan.orStay tail?) s := by
  have hsplit : f.text ++ (body ++ '}' :: s) =
      f.word ++ ((f.behindWord ++ (body ++ ['}'])) ++ s) := by simp [text]
  have hbreaks : Breaks (f.behindWord ++ (body ++ ['}'])) s := by
    intro hlast
    rw [← List.append_assoc, List.getLast?_concat] at hlast
    cases hlast
  have hbehind : (f.behindWord ++ (body ++ ['}'])) ++ s = f.behindWord ++ (body ++ '}' :: s) := by
    simp
  rw [hsplit]
  refine constructs_self (v := some _) isWord_keyword f.isKeyword ?_ ?_ hbreaks
  · rw [hbehind]
    exact f.stops_behindWord _
  · unfold Scan.orStay
    rw [hbehind, f.tail?_behindWord hbody]

/-- The front of a block ends with its opening brace. -/
theorem brace_mem_text : '{' ∈ f.text := by
  simp [text, behindWord]

/-- A front is what is up to its brace, and the brace. -/
theorem text_eq : f.text = (f.word ++ (f.gap ++ (f.name ++ f.gapBehind))) ++ ['{'] := by
  simp [text, behindWord]

/-- Up to the brace there are only characters of identifiers and blanks. -/
theorem not_mem_upTo {m : Char} (hident : isIdent m = false) (hblank : isBlank m = false) :
    m ∉ f.word ++ (f.gap ++ (f.name ++ f.gapBehind)) := by
  have hword := (isWord_keyword.isIdentifier f.isKeyword).not_mem hident
  have hname := f.isIdentifier_name.not_mem hident
  have hgap {b : List Char} (hb : ∀ c ∈ b, isBlank c = true) : m ∉ b := by
    intro hmem
    rw [hb m hmem] at hblank
    cases hblank
  simp [hword, hname, hgap f.isBlank_gap, hgap f.isBlank_gapBehind]

/-- A front has no closing brace. -/
theorem close_not_mem_text : '}' ∉ f.text := by
  have hupTo := f.not_mem_upTo (m := '}') (by decide) (by decide)
  rw [text_eq, List.mem_append, not_or]
  exact ⟨hupTo, by decide⟩

end TableBlock.Front

/-- The front of the block of a table, with single spaces. -/
def plainFront (name : List Char) (hname : IsIdentifier name) : TableBlock.Front where
  word := "Table".toList
  gap := [' ']
  name := name
  gapBehind := [' ']
  isKeyword := rfl
  gap_ne := List.cons_ne_nil _ _
  isBlank_gap := List.forall_mem_singleton.2 rfl
  isIdentifier_name := hname
  isBlank_gapBehind := List.forall_mem_singleton.2 rfl

end SchemaDiagram
