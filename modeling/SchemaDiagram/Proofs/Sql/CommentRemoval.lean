import SchemaDiagram.Proofs.Sql.Comment
import SchemaDiagram.Sql.Parse

/-!
# Comments make no difference

A script without its comments has none left, so that leaving them out once more changes nothing
(`strip_strip`). A comment that begins in code can be replaced by what it leaves behind, whatever
stands in it (`strip_blockComment`, `strip_lineComment`), and the script is read alike
(`sameCode_commented`).
-/

namespace SchemaDiagram.Sql

/-! ## A script without its comments -/

/-- The place of a character in a script without comments, if it had the given place before. -/
def Place.bare : Place → Place
  | .quoted => .quoted
  | .code | .lineComment | .blockComment _ => .code

/-- What remains behind the beginning of a comment to the end of the line begins with that end. -/
theorem endsLine_strip (s : List Char) : EndsLine (stripCommentsFrom .lineComment s) := by
  induction s with
  | nil => rfl
  | cons c s ih =>
    have hstep : stripCommentsFrom .lineComment (c :: s) =
        Place.remains .lineComment c ++ stripCommentsFrom (Place.behind .lineComment c) s :=
      strip_step (by simp)
    rw [hstep, Place.remains, Place.behind]
    split_ifs with hc
    · exact beq_iff_eq.2 hc
    · exact ih

/-- A character that begins no comment with the next one begins none with what remains of that. -/
theorem not_torn_strip {c : Char} {s : List Char} (h : ¬Torn [c] s) :
    ¬Torn [c] (stripCommentsFrom .code s) := by
  cases s with
  | nil => exact h
  | cons d rest =>
    by_cases hopen : Torn [d] rest
    · -- The next character begins a comment, which leaves the end of a line or a space.
      rcases hopen with ⟨hd, hrest⟩ | ⟨hd, hrest⟩
      · obtain rfl : d = '-' := Option.some.inj hd
        obtain ⟨rest, rfl⟩ := List.head?_eq_some_iff.1 hrest
        have hend : EndsLine (stripCommentsFrom .code ('-' :: '-' :: rest)) := endsLine_strip rest
        rintro (⟨-, hhead⟩ | ⟨-, hhead⟩) <;> simp [EndsLine, hhead] at hend
      · obtain rfl : d = '/' := Option.some.inj hd
        obtain ⟨rest, rfl⟩ := List.head?_eq_some_iff.1 hrest
        rintro (⟨-, hhead⟩ | ⟨-, hhead⟩) <;> cases hhead
    · rw [strip_step fun _ => hopen]
      exact h

/-- What remains of a character is kept by a second removal, which goes on where the first one
does. -/
theorem strip_remains {place : Place} {c : Char} {s : List Char}
    (h : place = .code → ¬Torn [c] s) :
    stripCommentsFrom place.bare (place.remains c ++ s) =
      place.remains c ++ stripCommentsFrom (place.behind c).bare s := by
  cases place with
  | code =>
    have hbare : (Place.code.behind c).bare = Place.code.behind c := by
      rw [Place.behind]
      split <;> rfl
    rw [hbare]
    exact strip_step h
  | quoted =>
    have hbare : (Place.quoted.behind c).bare = Place.quoted.behind c := by
      rw [Place.behind]
      split <;> rfl
    rw [hbare]
    exact strip_step (by simp [Place.bare])
  | lineComment =>
    rw [Place.remains, Place.behind]
    split_ifs with hc
    · exact strip_cons (by rw [hc]; decide) s
    · rfl
  | blockComment afterStar =>
    rw [Place.remains, Place.behind]
    split_ifs <;> rfl

/-- There are no comments left in what remains of a script. -/
theorem strip_strip (place : Place) (s : List Char) :
    stripCommentsFrom place.bare (stripCommentsFrom place s) = stripCommentsFrom place s := by
  induction place, s using place_induction with
  | nil place => cases place <;> rfl
  | line s ih => exact ih
  | block s ih => exact (strip_cons (by decide) _).trans (congrArg (' ' :: ·) ih)
  | step place c s hkept ih =>
    -- Behind a quote the next characters are kept; any other one is followed by code.
    have hopen : place = .code → ¬Torn [c] (stripCommentsFrom (place.behind c) s) := by
      rintro rfl
      rw [Place.behind]
      split_ifs with hc
      · rw [hc]
        rintro (⟨hquote, -⟩ | ⟨hquote, -⟩) <;> cases hquote
      · exact not_torn_strip (hkept rfl)
    rw [strip_step hkept, strip_remains hopen, ih]

/-! ## A comment in a script -/

/-- A block comment leaves a space. -/
theorem strip_blockComment {note : List Char} (hnote : ¬"*/".toList <:+: note) (s : List Char) :
    stripCommentsFrom .code ("/*".toList ++ note ++ "*/".toList ++ s) =
      stripCommentsFrom .code (' ' :: s) := by
  -- Inside the comment everything is left out up to the first slash behind an asterisk.
  have hinside (note : List Char) (afterStar : Bool) (hnote : ¬"*/".toList <:+: note)
      (hslash : afterStar = true → note.head? ≠ some '/') :
      stripCommentsFrom (.blockComment afterStar) (note ++ '*' :: '/' :: s) =
        stripCommentsFrom .code s := by
    induction note generalizing afterStar with
    | nil => simp [stripCommentsFrom]
    | cons c note ih =>
      have hgoes : ¬(afterStar = true ∧ c = '/') := fun h => hslash h.1 (congrArg some h.2)
      have hplace : Place.behind (.blockComment afterStar) c = .blockComment (c = '*') :=
        if_neg hgoes
      have hstep : stripCommentsFrom (.blockComment afterStar) (c :: (note ++ '*' :: '/' :: s)) =
          stripCommentsFrom (Place.behind (.blockComment afterStar) c) (note ++ '*' :: '/' :: s) :=
        strip_step (by simp)
      rw [List.cons_append, hstep, hplace]
      refine ih _ (fun hoccurs => hnote (hoccurs.trans (List.suffix_cons c note).isInfix)) ?_
      -- A slash behind an asterisk would have ended the comment.
      intro hstar hhead
      obtain rfl : c = '*' := of_decide_eq_true hstar
      obtain ⟨rest, rfl⟩ := List.head?_eq_some_iff.1 hhead
      exact hnote (List.prefix_append ['*', '/'] rest).isInfix
  calc stripCommentsFrom .code ("/*".toList ++ note ++ "*/".toList ++ s)
      = ' ' :: stripCommentsFrom (.blockComment false) (note ++ '*' :: '/' :: s) := by
        simp [stripCommentsFrom]
    _ = ' ' :: stripCommentsFrom .code s := by rw [hinside note false hnote (by simp)]
    _ = stripCommentsFrom .code (' ' :: s) := (strip_cons (by decide) s).symm

/-- Texts of which the same remains in code can replace each other where nothing is torn. -/
theorem stripComments_append_congr {a s t : List Char} (hcode : placeBehind .code a = .code)
    (hs : ¬Torn a s) (ht : ¬Torn a t) (h : stripCommentsFrom .code s = stripCommentsFrom .code t) :
    stripComments (a ++ s) = stripComments (a ++ t) := by
  unfold stripComments
  rw [strip_append hs, strip_append ht, hcode, h]

/-- Two scripts are the same but for comments: they have the same code, and the same schema. -/
structure SameCode (script other : String) : Prop where
  /-- The same remains of both. -/
  stripped : stripComments script.toList = stripComments other.toList
  /-- They define the same schema, or both define none. -/
  parsed : parse script = parse other

/-- Scripts of which the same remains are read alike. -/
theorem sameCode_of_stripComments {script other : String}
    (h : stripComments script.toList = stripComments other.toList) : SameCode script other := by
  refine ⟨h, ?_⟩
  unfold parse
  rw [h]

/-- Comments never matter: there are none in what remains of a script, which is read like the script
itself, and a comment that begins in code is as good as the space or the line break that it leaves,
whatever stands in it. -/
theorem sameCode_commented :
    (∀ script, stripComments (stripComments script) = stripComments script) ∧
      (∀ script : String, SameCode (String.ofList (stripComments script.toList)) script) ∧
      ∀ a b : String, placeBehind .code a.toList = .code →
        (∀ note : String, ¬"*/".toList <:+: note.toList →
          SameCode (a ++ "/*" ++ note ++ "*/" ++ b) (a ++ " " ++ b)) ∧
        (a.toList.getLast? ≠ some '-' → ∀ note : String, '\n' ∉ note.toList →
          SameCode (a ++ "--" ++ note ++ "\n" ++ b) (a ++ "\n" ++ b)) := by
  have hidempotent (script : List Char) :
      stripComments (stripComments script) = stripComments script := strip_strip .code script
  refine ⟨hidempotent, fun script => ?_, fun a b hcode => ⟨fun note hnote => ?_,
    fun hhyphen note hnote => ?_⟩⟩
  · refine sameCode_of_stripComments ?_
    rw [String.toList_ofList]
    exact hidempotent _
  · have hcomment : ¬Torn a.toList ("/*".toList ++ note.toList ++ "*/".toList ++ b.toList) := by
      rintro (⟨-, hhead⟩ | ⟨-, hhead⟩) <;> cases hhead
    have hspace : ¬Torn a.toList (' ' :: b.toList) := by
      rintro (⟨-, hhead⟩ | ⟨-, hhead⟩) <;> cases hhead
    have hsame := stripComments_append_congr hcode hcomment hspace
      (strip_blockComment hnote b.toList)
    exact sameCode_of_stripComments (by simpa using hsame)
  · have hcomment : ¬Torn a.toList ("--".toList ++ note.toList ++ '\n' :: b.toList) := by
      rintro (⟨hlast, -⟩ | ⟨-, hhead⟩)
      · exact hhyphen hlast
      · cases hhead
    have hbreak : ¬Torn a.toList ('\n' :: b.toList) := by
      rintro (⟨-, hhead⟩ | ⟨-, hhead⟩) <;> cases hhead
    have hsame := stripComments_append_congr hcode hcomment hbreak
      (strip_lineComment hnote rfl)
    exact sameCode_of_stripComments (by simpa using hsame)

/-- A script that is divided behind a literal and a slash. -/
def dividedScript : String × String :=
  ("CREATE TABLE t (a text DEFAULT '--/*' /", ", b int);")

/-- Quotes, asterisks, slashes and statement ends in a comment make no difference to it. -/
theorem sameCode_commented_dividedScript :
    placeBehind .code dividedScript.1.toList = .code ∧
      dividedScript.1.toList.getLast? ≠ some '-' ∧
      SameCode (dividedScript.1 ++ "/*" ++ "/ it's /* ); **" ++ "*/" ++ dividedScript.2)
        (dividedScript.1 ++ " " ++ dividedScript.2) ∧
      SameCode (dividedScript.1 ++ "--" ++ "* it's -- */ );" ++ "\n" ++ dividedScript.2)
        (dividedScript.1 ++ "\n" ++ dividedScript.2) ∧
      (parse (dividedScript.1 ++ "/*" ++ "/ it's /* ); **" ++ "*/" ++ dividedScript.2)).map
        Schema.tables = .ok [⟨"t", [{ name := "a", type := "text", defaultValue := some "'--/*'" },
          { name := "b", type := "integer" }]⟩] := by
  have hcode : placeBehind .code dividedScript.1.toList = .code := by decide +kernel
  have hlast : dividedScript.1.toList.getLast? ≠ some '-' := by decide +kernel
  obtain ⟨hblock, hline⟩ := sameCode_commented.2.2 dividedScript.1 dividedScript.2 hcode
  refine ⟨hcode, hlast, hblock _ (by decide +kernel), hline hlast _ (by decide +kernel), ?_⟩
  decide +kernel

end SchemaDiagram.Sql
