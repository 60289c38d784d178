import SchemaDiagram.Proofs.Schema.Layout

/-!
# Checking the layout of a text

Whether a text is laid out for the removal of a table can be tested by going through the ways to
divide it (`splits`). What stands in it is found with the reader at each place (`standing`), and a text
is settled if nothing that it ends with can be the beginning of a front or of a reference
(`isSettled`). For that the test looks no further than at the keyword, at a brace and at a reference
that is complete. So a text that passes is laid out (`LaidOut.of_splits`), but one that does not pass
may be so, too.
-/

namespace SchemaDiagram

open Character Cursor SchemaText

variable {n : String} {p q s t u : List Char}

/-! ## Ways to divide a text -/

/-- The ways to divide a text in two. -/
def splits : List Char → List (List Char × List Char)
  | [] => [([], [])]
  | c :: s => ([], c :: s) :: (splits s).map fun (p, s) => (c :: p, s)

/-- The two parts make up the text. -/
@[simp]
theorem mem_splits : (p, s) ∈ splits t ↔ p ++ s = t := by
  induction t generalizing p with
  | nil => simp [splits]
  | cons c t ih =>
    cases p with
    | nil => simp [splits]
    | cons d p => simp [splits, ih, and_comm, eq_comm (a := c)]

/-- The places of a text at which the reader takes something behind the keyword. -/
def standing {α : Type} (keyword : Keyword) (read? : List Char → Option (α × List Char))
    (t : List Char) : List (Span α) :=
  (splits t).filterMap fun (p, s) =>
    if p.getLast?.any isIdent then none
    else (Scan.letters? keyword.letters s).bind fun behind =>
      (read? behind).map fun (v, rest) => ⟨byteLength p, byteLength t - byteLength rest, v⟩

/-- The text begins as a keyword does. -/
def Keyword.mayBegin (keyword : Keyword) (q : List Char) : Bool :=
  Text.sameLetters (q.take keyword.letters.length) (keyword.letters.take q.length)

/-- The text may be the beginning of the front of a block. -/
def TableBlock.mayBegin (q : List Char) : Bool :=
  keyword.mayBegin q && !q.contains '{'

/-- The text may be the beginning of a reference. -/
def Reference.mayBegin (q : List Char) : Bool :=
  keyword.mayBegin q && (tail? (q.drop keyword.letters.length)).all (·.2.isEmpty)

/-- Nothing that the text ends with may be the beginning of a front or of a reference. -/
def isSettled (p : List Char) : Bool :=
  (splits p).all fun (a, q) => a.getLast?.any isIdent || q.isEmpty ||
    !(TableBlock.mayBegin q || Reference.mayBegin q)

instance : DecidablePred LineBehind := fun p =>
  inferInstanceAs (Decidable (p.getLast?.all (· == '\n') = true))

instance : DecidablePred IsIndent := fun gap =>
  decidable_of_iff (gap.all fun c => isBlank c && c != '\n') (by simp [IsIndent])

instance (l s : List Char) : Decidable (IsLine l s) :=
  decidable_of_iff (l ≠ [] ∧ '\n' ∉ l.dropLast ∧ (l.getLast? = some '\n' ∨ s = []))
    ⟨fun ⟨hne, hsingle, hended⟩ => ⟨hne, hsingle, hended⟩,
      fun ⟨hne, hsingle, hended⟩ => ⟨hne, hsingle, hended⟩⟩

instance (name l : List Char) : Decidable (RefersTo name l) :=
  decidable_of_iff _ isReferenceTo_iff

instance : DecidablePred BeginsLine := fun p =>
  decidable_of_iff (∃ x ∈ splits p, LineBehind x.1 ∧ IsIndent x.2) <| by
    simp only [Prod.exists, mem_splits, BeginsLine, eq_comm (a := p)]

/-- The text begins with the letters of `ref` and goes on with what the condition holds for. -/
def beginsWithReference (behind : List Char → Bool) (s : List Char) : Bool :=
  (splits s).any fun (gap, s) => decide (IsIndent gap) &&
    (Scan.letters? Reference.keyword.letters s).any behind

/-- Blanks come before the letters at most. -/
theorem beginsWithReference_iff {behind : List Char → Bool} :
    beginsWithReference behind s = true ↔ ∃ gap w v, s = gap ++ (w ++ v) ∧ IsIndent gap ∧
      Text.sameLetters w Reference.keyword.letters = true ∧ behind v = true := by
  unfold beginsWithReference
  simp only [List.any_eq_true, Prod.exists, mem_splits, Bool.and_eq_true, decide_eq_true_iff,
    Option.any_eq_true, Scan.letters?_eq_some_iff]
  constructor
  · rintro ⟨gap, _, rfl, hgap, v, ⟨w, rfl, hsame⟩, hv⟩
    exact ⟨gap, w, v, rfl, hgap, hsame, hv⟩
  · rintro ⟨gap, w, v, rfl, hgap, hsame, hv⟩
    exact ⟨gap, _, rfl, hgap, v, ⟨w, rfl, hsame⟩, hv⟩

instance : DecidablePred BeginsReference := fun p =>
  decidable_of_iff (∃ x ∈ splits p, LineBehind x.1 ∧
    beginsWithReference (fun v => !v.contains '\n') x.2 = true) <| by
    simp only [Prod.exists, mem_splits, beginsWithReference_iff, BeginsReference]
    constructor
    · rintro ⟨a, _, rfl, ha, gap, w, v, rfl, hgap, hsame, hv⟩
      exact ⟨a, gap, w, v, rfl, ha, hgap, hsame, by simpa using hv⟩
    · rintro ⟨a, gap, w, v, rfl, ha, hgap, hsame, hv⟩
      exact ⟨a, _, rfl, ha, gap, w, v, rfl, hgap, hsame, by simpa using hv⟩

instance : DecidablePred NextReference := fun s =>
  decidable_of_iff (beginsWithReference (fun _ => true) s = true) <| by
    simp only [beginsWithReference_iff, NextReference, and_true]

/-! ## The layout -/

instance {α : Type} (xs : List (Span α)) (i j : ℕ) : Decidable (Beside xs i j) :=
  inferInstanceAs (Decidable (∀ x ∈ xs, x.stop ≤ i ∨ j ≤ x.start))

instance (r : Relationship) (n : String) : Decidable (r.Touches n) :=
  inferInstanceAs (Decidable (r.endpoints.source.table = n ∨ r.endpoints.target.table = n))

instance : DecidablePred IsBounded := fun n =>
  inferInstanceAs (Decidable (n.toList.head?.any isWord = true ∧
    n.toList.getLast?.any isWord = true))

/-- No piece of anything else in the text `t` is on the line `l` behind `p`. -/
def isWhole (t p l : List Char) : Bool :=
  isSettled p &&
    ((standing TableBlock.keyword TableBlock.tail? t).all fun y =>
      decide ((y.start < byteLength p ∨ byteLength (p ++ l) ≤ y.start) ∧
        (y.stop ≤ byteLength p ∨ byteLength (p ++ l) < y.stop))) &&
    (standing Reference.keyword Reference.tail? t).all fun y =>
      decide (byteLength p ≤ y.start → y.start < byteLength (p ++ l) → y.stop ≤ byteLength (p ++ l))

end SchemaDiagram
