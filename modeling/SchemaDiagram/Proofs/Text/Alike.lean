import SchemaDiagram.Proofs.Text.Boundary

/-!
# Reading two texts alike

Two texts have a beginning in common. A reader `ReadsAlike` in them if it stops at the same place of
the common part, or else behind it where the same text remains, and if what it finds has the same
image. If that is so behind each keyword of the common part, then the constructs of the two texts
have the same images (`map_constructs_congr`), provided that those of the remaining parts do.

Not every keyword matters for that, but only those to which the search comes (`Reaches`): it does not
come to those in what a reader takes. If what is taken always ends in the same way, then it does not
come to those behind a keyword that could have been completed, up to the first such end
(`Reaches.eq_none`).
-/

namespace SchemaDiagram

open Character

/-! ## Breaks between parts -/

/-- The first part of a text stops identifiers if the text does. -/
theorem Stops.of_append {p s : List Char} (h : Stops (p ++ s)) : Stops p := by
  cases p with
  | nil => exact stops_nil
  | cons c p => exact stops_cons.2 (stops_cons.1 h)

namespace Breaks

variable {p q s x : List Char}

/-- Behind nothing there is a break. -/
theorem nil : Breaks [] s := by
  intro hl
  simp at hl

/-- What follows a break may be continued by a text that stops identifiers. -/
theorem append (h : Breaks p s) (hx : Stops x) : Breaks p (s ++ x) := by
  intro hl
  cases s with
  | nil => exact hx
  | cons c s => exact h hl

/-- A break behind the second of two parts is one behind both, if there is one behind the first
part in case the second one is empty. -/
theorem prepend (h : Breaks q s) (hnil : q = [] → Breaks p s) : Breaks (p ++ q) s := by
  intro hl
  cases q using List.reverseRecOn with
  | nil => exact hnil rfl (by simpa using hl)
  | append_singleton q c => exact h (by simpa using hl)

/-- A break is one behind a longer text, too, if identifiers stop in front of the part that it is
behind. -/
theorem prepend_of_stops (h : Breaks q s) (hstops : Stops (q ++ s)) : Breaks (p ++ q) s :=
  h.prepend fun hnil => Breaks.of_stops (List.nil_append s ▸ hnil ▸ hstops)

/-- Behind a break in front of an identifier no other one goes on. -/
theorem front (h : Breaks p (q ++ s)) (hq : IsIdentifier q) :
    p.getLast?.any isIdent = false := by
  rw [Bool.eq_false_iff]
  intro hl
  have hstops := h hl
  obtain ⟨c, v, rfl⟩ := List.exists_cons_of_ne_nil hq.1
  rw [List.cons_append, stops_cons, hq.2 c List.mem_cons_self] at hstops
  cases hstops

end Breaks

/-- Parts of a text that are apart from what comes behind stay so without what is in front, if no
identifier runs into them. -/
theorem Apart.of_append {α : Type} {keyword : Keyword} {reader : List Char → Option α × List Char}
    {a p s : List Char} (hword : IsWord keyword.letters) (h : Apart keyword reader (a ++ p) s)
    (hbreaks : Breaks a p) : Apart keyword reader p s := by
  rintro b w t rfl hfront hsame
  refine h (a ++ b) w t (List.append_assoc _ _ _).symm ?_ hsame
  cases b using List.reverseRecOn with
  | nil =>
    have hinto : Breaks a (w ++ t) := hbreaks
    rw [List.append_nil]
    exact hinto.front (hword.isIdentifier hsame)
  | append_singleton b c => simpa using hfront

/-! ## Searching across a character that is not searched for -/

namespace Scan

variable {stop p s : List Char} {c : Char}

/-- What begins a text is divided by a character that is not in it before that character. -/
theorem isPrefixOf?_append_cons (hc : c ∉ stop) (p s : List Char) :
    stop.isPrefixOf? (p ++ c :: s) = (stop.isPrefixOf? p).map (· ++ c :: s) := by
  induction stop generalizing p with
  | nil => cases p <;> rfl
  | cons a stop ih =>
    rw [List.mem_cons, not_or] at hc
    cases p with
    | nil => simp [List.isPrefixOf?, Ne.symm hc.1]
    | cons x p =>
      simp only [List.cons_append, List.isPrefixOf?]
      split
      · exact ih hc.2 p
      · rfl

/-- A stop that lacks a character comes before its first occurrence, or else behind it. -/
theorem until?_append_cons (hc : c ∉ stop) (hne : stop ≠ []) (p s : List Char) :
    until? stop (p ++ c :: s) =
      ((until? stop p).map fun (taken, rest) => (taken, rest ++ c :: s)).or
        ((until? stop s).map fun (taken, rest) => (p ++ c :: taken, rest)) := by
  induction p with
  | nil =>
    have hfront := isPrefixOf?_append_cons hc [] s
    have hnil : until? stop [] = none := by simp [until?, hne]
    have hnone : stop.isPrefixOf? [] = none := by
      cases stop with
      | nil => exact absurd rfl hne
      | cons a stop => rfl
    rw [hnone] at hfront
    rw [hnil, List.nil_append, until?, ← List.nil_append (c :: s), hfront]
    rfl
  | cons x p ih =>
    have hfront := isPrefixOf?_append_cons hc (x :: p) s
    rw [List.cons_append] at hfront
    rw [List.cons_append, until?, hfront, until?]
    cases stop.isPrefixOf? (x :: p) with
    | some rest => rfl
    | none =>
      simp only [Option.map_none]
      rw [ih]
      cases until? stop p with
      | some found => rfl
      | none => cases until? stop s <;> rfl

end Scan

/-- A break within an identifier is in front of it. -/
theorem IsIdentifier.eq_nil_of_front {a e v : List Char} (h : IsIdentifier (e ++ v))
    (hfront : (a ++ e).getLast?.any isIdent = false) : e = [] := by
  cases e using List.reverseRecOn with
  | nil => rfl
  | append_singleton e c =>
    rw [← List.append_assoc, List.getLast?_concat, Option.any_some, h.2 c (by simp)] at hfront
    cases hfront

/-- An end without identifiers that a text has behind an identifier is all behind it. -/
theorem isInfix_of_append_eq {r stop f w z : List Char} (hw : IsIdentifier w)
    (hstop : ∀ c ∈ stop, isIdent c = false) (h : r ++ stop = f ++ (w ++ z)) : stop <:+: z := by
  rw [← List.append_assoc] at h
  rcases List.append_eq_append_iff.1 h with ⟨g, hg, hend⟩ | ⟨g, -, rfl⟩
  · cases g using List.reverseRecOn with
    | nil => exact ⟨[], [], by simp [hend]⟩
    | append_singleton g c =>
      have hc : w.getLast hw.1 = c := by
        have hlast := congrArg List.getLast? hg
        rw [List.getLast?_append_of_ne_nil _ hw.1, List.getLast?_eq_some_getLast hw.1,
          ← List.append_assoc, List.getLast?_concat] at hlast
        exact Option.some.inj hlast
      have hident := hw.2 _ (List.getLast_mem hw.1)
      rw [hc, hstop c (by simp [hend])] at hident
      cases hident
  · exact (List.suffix_append g stop).isInfix

/-- A reader that stays where it is when it takes nothing has passed over nothing, or over a text with
the end that all have which are taken. -/
theorem Scan.passed_of_orStay {α : Type} {read? : List Char → Option (α × List Char)}
    {stop q rest : List Char} {v : Option α}
    (hends : ∀ t v rest, read? t = some (v, rest) → ∃ q, t = q ++ (stop ++ rest))
    (h : orStay read? (q ++ rest) = (v, rest)) :
    read? (q ++ rest) = none ∧ q = [] ∨ ∃ r, q = r ++ stop := by
  unfold orStay at h
  cases hread : read? (q ++ rest) with
  | none =>
    rw [hread] at h
    exact .inl ⟨rfl, List.append_left_eq_self.1 (congrArg Prod.snd h)⟩
  | some found =>
    obtain ⟨value, rest'⟩ := found
    rw [hread] at h
    obtain rfl : rest' = rest := congrArg Prod.snd h
    obtain ⟨r, hr⟩ := hends _ _ _ hread
    rw [← List.append_assoc] at hr
    exact .inr ⟨r, List.append_cancel_right hr⟩

/-! ## Readers and constructs -/

section ReadsAlike

variable {α β : Type} {f : α → β} {keyword : Keyword}
  {reader next : List Char → Option α × List Char} {s x y : List Char}

/-- A reader does alike in the texts `s ++ x` and `s ++ y`, as far as `f` can tell. -/
inductive ReadsAlike (f : α → β) (reader : List Char → Option α × List Char)
    (s x y : List Char) : Prop
  /-- In both it stops at one place of `s`. -/
  | within {p r : List Char} {v w : Option α} (split : s = p ++ r) (breaks : Breaks p r)
    (left : reader (s ++ x) = (v, r ++ x)) (right : reader (s ++ y) = (w, r ++ y))
    (same : v.map f = w.map f)
  /-- In both it finds something, and the same text remains. -/
  | beyond {p q r : List Char} {v w : α} (splitLeft : s ++ x = p ++ r) (splitRight : s ++ y = q ++ r)
    (breaksLeft : Breaks p r) (breaksRight : Breaks q r) (left : reader (s ++ x) = (some v, r))
    (right : reader (s ++ y) = (some w, r)) (same : f v = f w)

/-- A reader that goes on as another one does alike if that does. -/
theorem ReadsAlike.behind {passed : List Char} (h : ReadsAlike f next s x y)
    (hx : Stops x) (hy : Stops y) (hpassed : Breaks passed s)
    (hleft : reader (passed ++ s ++ x) = next (s ++ x))
    (hright : reader (passed ++ s ++ y) = next (s ++ y)) :
    ReadsAlike f reader (passed ++ s) x y := by
  cases h with
  | within split breaks left right same =>
    subst split
    refine .within (List.append_assoc _ _ _).symm ?_ (hleft.trans left) (hright.trans right) same
    exact breaks.prepend fun hnil => by rwa [hnil] at hpassed
  | @beyond p q rest v w splitLeft splitRight breaksLeft breaksRight left right same =>
    have hpassedx := hpassed.append hx
    have hpassedy := hpassed.append hy
    refine .beyond (p := passed ++ p) (q := passed ++ q) ?_ ?_ ?_ ?_ (hleft.trans left)
      (hright.trans right) same
    · rw [List.append_assoc, splitLeft, List.append_assoc]
    · rw [List.append_assoc, splitRight, List.append_assoc]
    · refine breaksLeft.prepend fun hnil => ?_
      rwa [splitLeft, hnil] at hpassedx
    · refine breaksRight.prepend fun hnil => ?_
      rwa [splitRight, hnil] at hpassedy

/-- The search in the text `p ++ x` comes to a place behind `a`, and `s` remains of `p` there. -/
inductive Reaches (keyword : Keyword) (reader : List Char → Option α × List Char)
    (p x : List Char) : (a s : List Char) → Prop
  /-- It begins at the front. -/
  | start : Reaches keyword reader p x [] p
  /-- It passes over a character outside identifiers. -/
  | cons {a s : List Char} {c : Char} (here : Reaches keyword reader p x a (c :: s))
    (outside : isIdent c = false) : Reaches keyword reader p x (a ++ [c]) s
  /-- It passes over an identifier that is not the keyword. -/
  | word {a w s : List Char} (here : Reaches keyword reader p x a (w ++ s))
    (isIdentifier : IsIdentifier w) (stops : Stops s)
    (other : Text.sameLetters w keyword.letters = false) : Reaches keyword reader p x (a ++ w) s
  /-- It goes on where the reader stopped behind the keyword. -/
  | read {a w q s : List Char} {v : Option α} (here : Reaches keyword reader p x a (w ++ (q ++ s)))
    (letters : Text.sameLetters w keyword.letters = true) (stops : Stops (q ++ s))
    (breaks : Breaks q s) (on : reader (q ++ (s ++ x)) = (v, s ++ x)) :
    Reaches keyword reader p x (a ++ (w ++ q)) s

namespace Reaches

variable {p a b v w z : List Char}

/-- The two parts make up the text. -/
theorem text (h : Reaches keyword reader p x a s) : p = a ++ s := by
  induction h with
  | start => rfl
  | cons _ _ ih => simpa using ih
  | word _ _ _ _ ih => simpa using ih
  | read _ _ _ _ _ ih => simpa using ih

/-- No identifier runs into what remains. -/
theorem breaks (h : Reaches keyword reader p x a s) : Breaks a s := by
  induction h with
  | start => exact Breaks.nil
  | cons _ hc _ => exact Breaks.of_last (by simpa using hc)
  | word _ _ hs _ _ => exact Breaks.of_stops hs
  | read _ _ hs hbreaks _ _ =>
    rw [← List.append_assoc]
    exact hbreaks.prepend_of_stops hs

/-- A word in a text of two parts is in the first one, or in the second. -/
theorem split_cases (hbreaks : Breaks a (v ++ s)) (hsplit : a ++ v = b ++ (w ++ z))
    (hw : IsIdentifier w) :
    (∃ f, a = b ++ (w ++ f) ∧ z = f ++ v) ∨ ∃ e, b = a ++ e ∧ v = e ++ (w ++ z) := by
  rcases List.append_eq_append_iff.1 hsplit with ⟨e, rfl, rfl⟩ | ⟨e, rfl, hv⟩
  · exact .inr ⟨e, rfl, rfl⟩
  rcases List.append_eq_append_iff.1 hv.symm with ⟨f, rfl, rfl⟩ | ⟨f, rfl, rfl⟩
  · -- The second part begins within the word, or in front of it, or behind it.
    cases f with
    | nil => exact .inl ⟨[], by simp, rfl⟩
    | cons d f =>
      cases e using List.reverseRecOn with
      | nil => exact .inr ⟨[], by simp, rfl⟩
      | append_singleton e c =>
        have hc := hw.2 c (by simp)
        have hd := hbreaks (by simpa [← List.append_assoc] using hc)
        rw [List.append_assoc, List.cons_append, stops_cons, hw.2 d (by simp)] at hd
        cases hd
  · exact .inl ⟨f, rfl, rfl⟩

variable {read? : List Char → Option (α × List Char)} {stop : List Char}

/-- If what is taken always ends with `stop`, and the search has come to a place with no such end
between a keyword and the place, then nothing is taken behind that keyword. -/
theorem eq_none (h : Reaches keyword (Scan.orStay read?) p x a s) (hword : IsWord keyword.letters)
    (hends : ∀ t v rest, read? t = some (v, rest) → ∃ q, t = q ++ (stop ++ rest))
    (hstop : ∀ c ∈ stop, isIdent c = false) (hsplit : a = b ++ (w ++ z))
    (hb : b.getLast?.any isIdent = false) (hsame : Text.sameLetters w keyword.letters = true)
    (hz : Stops z) (hnot : ¬stop <:+: z) : read? (z ++ (s ++ x)) = none := by
  have hw := hword.isIdentifier hsame
  -- By induction on the way of the search. What is behind the keyword up to the last step has no
  -- end in it, either.
  induction h generalizing z with
  | start => exact absurd hsplit.symm (by simp [hw.1])
  | @cons a s c here hc ih =>
    rcases split_cases here.breaks hsplit hw with ⟨f, rfl, rfl⟩ | ⟨e, rfl, hv⟩
    · simpa using ih rfl hz.of_append fun h => hnot (h.trans (List.infix_append' [] f _))
    · have hmem : w.head hw.1 ∈ [c] := hv ▸ by simp
      rw [← List.mem_singleton.1 hmem, hw.2 _ (List.head_mem hw.1)] at hc
      cases hc
  | @word a u s here hu hs hother ih =>
    rcases split_cases here.breaks hsplit hw with ⟨f, rfl, rfl⟩ | ⟨e, rfl, hv⟩
    · simpa using ih rfl hz.of_append fun h => hnot (h.trans (List.infix_append' [] f _))
    · obtain rfl := (hv ▸ hu).eq_nil_of_front hb
      cases z with
      | nil =>
        rw [hv, List.nil_append, List.append_nil, hsame] at hother
        cases hother
      | cons d z =>
        rw [stops_cons, hu.2 d (by simp [hv])] at hz
        cases hz
  | @read a u q s v here hsame' hs hbreaks hon ih =>
    have hbreaks' := here.breaks
    rw [← List.append_assoc] at hbreaks'
    rcases split_cases hbreaks' hsplit hw with ⟨f, rfl, rfl⟩ | ⟨e, rfl, huq⟩
    · simpa using ih rfl hz.of_append fun h => hnot (h.trans (List.infix_append' [] f _))
    have hpassed := Scan.passed_of_orStay hends hon
    rcases List.append_eq_append_iff.1 huq with ⟨f, rfl, hq⟩ | ⟨f, hu, hwz⟩
    · obtain ⟨-, rfl⟩ | ⟨r, rfl⟩ := hpassed
      · simp [hw.1] at hq
      · exact absurd (isInfix_of_append_eq hw hstop hq) hnot
    · obtain rfl := (hu ▸ hword.isIdentifier hsame').eq_nil_of_front hb
      have hlen := (length_eq_of_sameLetters hsame).trans (length_eq_of_sameLetters hsame').symm
      rw [List.nil_append] at hu
      obtain ⟨-, rfl⟩ := List.append_inj hwz (hu ▸ hlen)
      obtain ⟨hnone, -⟩ | ⟨r, hr⟩ := hpassed
      · exact hnone
      · exact absurd ⟨r, [], by simp [hr]⟩ hnot

end Reaches

/-- If a reader does alike behind each keyword of what two texts have in common to which the search
comes in both, then the constructs of the two texts look the same, provided that those of the
remaining parts do. -/
theorem map_constructs_congr (hword : IsWord keyword.letters) {p : List Char} (hx : Stops x)
    (hy : Stops y) (hend : (constructs keyword reader x).map f = (constructs keyword reader y).map f)
    (h : ∀ a w s, Reaches keyword reader p x a (w ++ s) → Reaches keyword reader p y a (w ++ s) →
      Text.sameLetters w keyword.letters = true → Stops s → ReadsAlike f reader s x y) :
    (constructs keyword reader (p ++ x)).map f = (constructs keyword reader (p ++ y)).map f := by
  -- By induction on what is left of the common part, where the search has come.
  suffices hall : ∀ s a : List Char, Reaches keyword reader p x a s → Reaches keyword reader p y a s →
      (constructs keyword reader (s ++ x)).map f = (constructs keyword reader (s ++ y)).map f from
    hall p [] .start .start
  intro s
  induction s using suffix_induction with
  | nil => exact fun _ _ _ => hend
  | cons c t hc ih =>
    intro a hleft hright
    rw [List.cons_append, List.cons_append, constructs_cons hword hc, constructs_cons hword hc]
    exact ih t (List.suffix_refl t) (a ++ [c]) (hleft.cons hc) (hright.cons hc)
  | word w t hw ht ih =>
    intro a hleft hright
    have htx : Stops (t ++ x) := by cases t <;> assumption
    have hty : Stops (t ++ y) := by cases t <;> assumption
    cases hsame : Text.sameLetters w keyword.letters with
    | false =>
      rw [List.append_assoc, List.append_assoc, constructs_word hword hw.2 htx hsame,
        constructs_word hword hw.2 hty hsame]
      exact ih t (List.suffix_refl t) (a ++ w) (hleft.word hw ht hsame) (hright.word hw ht hsame)
    | true =>
      cases h a w t hleft hright hsame ht with
      | @within passed rest v v' split breaks left right same =>
        subst split
        rw [List.append_assoc] at left right htx hty
        rw [List.append_assoc, List.append_assoc, List.append_assoc, List.append_assoc,
          constructs_self hword hsame htx left (breaks.append hx),
          constructs_self hword hsame hty right (breaks.append hy), List.map_append,
          List.map_append]
        have hrest := ih rest (List.suffix_append passed rest) (a ++ (w ++ passed))
          (hleft.read hsame ht breaks left) (hright.read hsame ht breaks right)
        rw [hrest, ← Option.toList_map, ← Option.toList_map, same]
      | beyond splitLeft splitRight breaksLeft breaksRight left right same =>
        rw [splitLeft] at left htx
        rw [splitRight] at right hty
        rw [List.append_assoc, List.append_assoc, splitLeft, splitRight,
          constructs_self hword hsame htx left breaksLeft,
          constructs_self hword hsame hty right breaksRight]
        simp [same]

end ReadsAlike

end SchemaDiagram
