import SchemaDiagram.Proofs.Text.Boundary

/-!
# Cutting constructs out of a text

The constructs of some kind are cut out of a text from the last one to the first, each where it was
found, and so every cut leaves the places of the earlier ones as they are. In a text of two parts
that a reader keeps apart, what is cut is what is cut in each of the parts (`cut_append`).
-/

namespace SchemaDiagram

open Character

variable {α : Type} {keyword : Keyword} {reader : List Char → Option α × List Char}
variable {chosen : α → Bool} {p s : List Char}

/-- The text without the constructs that are chosen by what was read. -/
def cut (keyword : Keyword) (reader : List Char → Option α × List Char) (chosen : α → Bool)
    (s : List Char) : List Char :=
  (((Cursor.start s).occurrences keyword reader).filter (chosen ·.value)).foldr
    Occurrence.cutFrom s

/-- A cut leaves what comes in front of the construct and what comes behind it. -/
theorem Occurrence.cutFrom_append {o : Occurrence α} {b : List Char}
    (h : o.start.passed.reverse ++ b = o.stop.passed.reverse) (s : List Char) :
    o.cutFrom (o.stop.passed.reverse ++ s) = o.start.passed.reverse ++ s := by
  have htake :
      (o.stop.passed.reverse ++ s).take o.start.passed.length = o.start.passed.reverse := by
    rw [← h, List.append_assoc, ← List.length_reverse, List.take_left]
  have hdrop : (o.stop.passed.reverse ++ s).drop o.stop.passed.length = s := by
    rw [← List.length_reverse, List.drop_left]
  unfold Occurrence.cutFrom
  rw [htake, hdrop]

/-- A cut looks at the places of the construct only, and they do not depend on what comes behind. -/
theorem foldr_cutFrom_extend (os : List (Occurrence α)) (s t : List Char) :
    (os.map (·.extend s)).foldr Occurrence.cutFrom t = os.foldr Occurrence.cutFrom t := by
  rw [List.foldr_map]
  rfl

/-- What comes in front of all constructs stays there. -/
theorem foldr_cutFrom_shift (os : List (Occurrence α)) (p s : List Char) :
    (os.map (·.shift p)).foldr Occurrence.cutFrom (p ++ s) =
      p ++ os.foldr Occurrence.cutFrom s := by
  induction os with
  | nil => rfl
  | cons o os ih =>
    have hlength (c : Cursor) : (c.shift p).passed.length = p.length + c.passed.length := by
      simp [Cursor.shift, Nat.add_comm]
    rw [List.map_cons, List.foldr_cons, ih, List.foldr_cons]
    show List.take (o.start.shift p).passed.length _ ++ List.drop (o.stop.shift p).passed.length _ = _
    rw [hlength, hlength, List.take_length_add_append, List.drop_length_add_append,
      List.append_assoc]
    rfl

/-- A cursor that moves further passes more. -/
theorem Cursor.reverse_passed_prefix (c : Cursor) {m n : Nat} (h : m ≤ n) :
    (c.advance m).passed.reverse <+: (c.advance n).passed.reverse := by
  have hreverse (n : Nat) :
      (c.advance n).passed.reverse = c.passed.reverse ++ c.ahead.take n := by
    simp [advance]
  rw [hreverse, hreverse, List.prefix_append_right_inj]
  exact List.take_prefix_take_left h

/-- Nothing that a cursor has passed is cut where constructs are ahead of it, and what comes behind
the text stays behind it. -/
theorem Cursor.foldr_cutFrom_occurrences (keyword : Keyword)
    (reader : List Char → Option α × List Char) (chosen : α → Bool) (c : Cursor) :
    ∃ t, ∀ s, ((c.occurrences keyword reader).filter (chosen ·.value)).foldr
      Occurrence.cutFrom (c.text ++ s) = c.passed.reverse ++ (t ++ s) := by
  -- The later constructs are cut first, and what is left up to the first one is as it was.
  induction c using search_induction keyword reader with
  | done c hi =>
    rw [occurrences_eq, hi]
    exact ⟨c.ahead, fun s => List.append_assoc _ _ _⟩
  | found c i hi ih =>
    rw [occurrences_eq, hi]
    simp only
    set behind := c.advance (i + keyword.letters.length) with hbehind
    set next := behind.moveTo (reader behind.ahead).2 with hnext
    have htext : next.text = c.text := by
      rw [hnext, moveTo, text_advance, hbehind, text_advance]
    obtain ⟨t, ht⟩ := ih
    rw [htext] at ht
    obtain ⟨x, hx⟩ : c.passed.reverse <+: (c.advance i).passed.reverse :=
      c.reverse_passed_prefix (Nat.zero_le i)
    obtain ⟨y, hy⟩ : (c.advance i).passed.reverse <+: next.passed.reverse := by
      have hbehind' : (c.advance i).passed.reverse <+: behind.passed.reverse :=
        c.reverse_passed_prefix (Nat.le_add_right _ _)
      exact hbehind'.trans (behind.reverse_passed_prefix (Nat.zero_le _))
    -- The first construct is not cut, or it is the part between its start and the next cursor.
    have hkeep (s : List Char) : next.passed.reverse ++ (t ++ s) =
        c.passed.reverse ++ (x ++ y ++ t ++ s) := by
      rw [← hy, ← hx]
      simp only [List.append_assoc]
    have hcut (v : α) (s : List Char) : (Occurrence.mk (c.advance i) next v).cutFrom
        (next.passed.reverse ++ (t ++ s)) = c.passed.reverse ++ (x ++ t ++ s) := by
      rw [Occurrence.cutFrom_append (o := ⟨c.advance i, next, v⟩) hy, ← hx]
      simp only [List.append_assoc]
    cases hread : (reader behind.ahead).1 with
    | none => exact ⟨x ++ y ++ t, fun s => (ht s).trans (hkeep s)⟩
    | some v =>
      cases hv : chosen v with
      | false =>
        refine ⟨x ++ y ++ t, fun s => Eq.trans ?_ (hkeep s)⟩
        rw [← ht s]
        simp [hv]
      | true =>
        refine ⟨x ++ t, fun s => Eq.trans ?_ (hcut v s)⟩
        rw [← ht s]
        simp [hv]

namespace Cursor

/-- A cursor moves over a text that is ahead. -/
theorem advance_append (passed p s : List Char) :
    (⟨passed, p ++ s⟩ : Cursor).advance p.length = ⟨p.reverse ++ passed, s⟩ := by
  simp [advance]

/-- A cursor moves over two texts behind each other. -/
theorem advance_append_append (passed p w s : List Char) :
    (⟨passed, p ++ (w ++ s)⟩ : Cursor).advance (p.length + w.length) =
      ⟨w.reverse ++ (p.reverse ++ passed), s⟩ := by
  rw [← List.length_append, ← List.append_assoc, advance_append, List.reverse_append,
    List.append_assoc]

/-- A cursor moves on to where a last part of what is ahead remains. -/
theorem moveTo_append (passed p s : List Char) :
    (⟨passed, p ++ s⟩ : Cursor).moveTo s = ⟨p.reverse ++ passed, s⟩ := by
  simp [moveTo, advance]

/-- Behind the first keyword the reader takes a text or nothing, and the search goes on where it
stopped. -/
theorem occurrences_of_keyword {reader : List Char → Option α × List Char}
    {passed a w t rest : List Char} {v : Option α}
    (hi : keywordIndex? keyword.letters passed.head? (a ++ (w ++ (t ++ rest))) = some a.length)
    (hlen : w.length = keyword.letters.length) (hread : reader (t ++ rest) = (v, rest)) :
    let place : Cursor := ⟨a.reverse ++ passed, w ++ (t ++ rest)⟩
    let next : Cursor := ⟨t.reverse ++ (w.reverse ++ (a.reverse ++ passed)), rest⟩
    (⟨passed, a ++ (w ++ (t ++ rest))⟩ : Cursor).occurrences keyword reader =
      (v.toList.map fun v => ⟨place, next, v⟩) ++ next.occurrences keyword reader := by
  have hplace : (⟨passed, a ++ (w ++ (t ++ rest))⟩ : Cursor).advance a.length =
      ⟨a.reverse ++ passed, w ++ (t ++ rest)⟩ := advance_append _ _ _
  have hbehind : (⟨passed, a ++ (w ++ (t ++ rest))⟩ : Cursor).advance
      (a.length + keyword.letters.length) = ⟨w.reverse ++ (a.reverse ++ passed), t ++ rest⟩ := by
    rw [← hlen, advance_append_append]
  rw [occurrences_eq]
  simp only [hi, hplace, hbehind, hread, moveTo_append]

end Cursor

/-- In a text of two parts that are apart, what is cut is what is cut in each of them. -/
theorem cut_append (chosen : α → Bool) (hword : IsWord keyword.letters)
    (hapart : Apart keyword reader p s) (hb : Breaks p s) :
    cut keyword reader chosen (p ++ s) =
      cut keyword reader chosen p ++ cut keyword reader chosen s := by
  obtain ⟨t, ht⟩ := (Cursor.start p).foldr_cutFrom_occurrences keyword reader chosen
  have hfirst : cut keyword reader chosen p = t := by
    have hnil := ht []
    rwa [List.append_nil, List.append_nil] at hnil
  have hfilter {f : Occurrence α → Occurrence α} (hf : ∀ o, (f o).value = o.value)
      (os : List (Occurrence α)) : (os.map f).filter (fun o => chosen o.value) =
        (os.filter fun o => chosen o.value).map f := by
    rw [List.filter_map]
    refine congrArg (List.map f) (List.filter_congr fun o _ => ?_)
    rw [Function.comp_apply, hf]
  unfold cut at hfirst ⊢
  rw [Cursor.occurrences_start_append hword hapart hb, List.filter_append,
    hfilter (f := (·.extend s)) fun _ => rfl, hfilter (f := (·.shift p)) fun _ => rfl,
    List.foldr_append, foldr_cutFrom_shift, foldr_cutFrom_extend, hfirst]
  exact ht _

/-! ## Cutting piece by piece -/

/-- A text without constructs is left as it is. -/
theorem cut_of_constructs_eq_nil (h : constructs keyword reader s = []) :
    cut keyword reader chosen s = s := by
  have hnone : (Cursor.start s).occurrences keyword reader = [] := List.map_eq_nil_iff.1 h
  unfold cut
  rw [hnone]
  rfl

/-- A character outside identifiers stays. -/
theorem cut_cons (hword : IsWord keyword.letters) {c : Char} (hc : isIdent c = false) :
    cut keyword reader chosen (c :: s) = c :: cut keyword reader chosen s := by
  have hnone : constructs keyword reader [c] = [] := by
    rw [constructs_cons hword hc, constructs_nil]
  have hapart : Apart keyword reader [c] s := by
    intro a w t hsplit _ hsame
    -- The keyword is not a single character outside identifiers.
    obtain ⟨hne, hall⟩ := hword.isIdentifier hsame
    obtain ⟨x, w, rfl⟩ := List.exists_cons_of_ne_nil hne
    obtain rfl : x = c := List.mem_singleton.1 (hsplit ▸ by simp)
    rw [hall x List.mem_cons_self] at hc
    cases hc
  rw [← List.singleton_append, cut_append chosen hword hapart (Breaks.of_forall (by simpa using hc)),
    cut_of_constructs_eq_nil hnone]
  rfl

/-- A construct in front of a text is cut if it is chosen, and stays if not. -/
theorem cut_self (hword : IsWord keyword.letters) {w : List Char} {v : α}
    (h : Text.sameLetters w keyword.letters = true) (hp : Stops (p ++ s))
    (hread : reader (p ++ s) = (some v, s)) (hb : Breaks p s) :
    cut keyword reader chosen (w ++ (p ++ s)) =
      (if chosen v then [] else w ++ p) ++ cut keyword reader chosen s := by
  have hindex : Cursor.keywordIndex? keyword.letters ([] : List Char).head?
      ([] ++ (w ++ (p ++ s))) = some 0 := Cursor.keywordIndex?_self (w := w) hword h hp
  have hfirst := Cursor.occurrences_of_keyword hindex (length_eq_of_sameLetters h) hread
  have hbreaks : Breaks (w ++ p) s := by
    intro hlast
    cases p using List.reverseRecOn with
    | nil => exact hp
    | append_singleton p c => exact hb (by simpa using hlast)
  have hnext : (⟨p.reverse ++ (w.reverse ++ ([].reverse ++ [])), s⟩ : Cursor) =
      (Cursor.start s).shift (w ++ p) := by
    simp [Cursor.shift, Cursor.start]
  have hshift : ((Cursor.start s).shift (w ++ p)).occurrences keyword reader =
      ((Cursor.start s).occurrences keyword reader).map (·.shift (w ++ p)) :=
    Cursor.occurrences_shift hword fun _ => hbreaks
  have hfilter (os : List (Occurrence α)) :
      (os.map (·.shift (w ++ p))).filter (fun o => chosen o.value) =
        (os.filter fun o => chosen o.value).map (·.shift (w ++ p)) := List.filter_map
  -- The later constructs are cut first, behind the one in front.
  have hlater : (((Cursor.start s).shift (w ++ p)).occurrences keyword reader |>.filter
      (chosen ·.value)).foldr Occurrence.cutFrom (w ++ (p ++ s)) =
        (w ++ p) ++ cut keyword reader chosen s := by
    rw [hshift, hfilter, ← List.append_assoc, foldr_cutFrom_shift]
    rfl
  have hcut (t : List Char) : (Occurrence.mk ⟨[], w ++ (p ++ s)⟩
      ((Cursor.start s).shift (w ++ p)) v).cutFrom ((w ++ p) ++ t) = t := by
    have hpassed : ((Cursor.start s).shift (w ++ p)).passed.reverse = w ++ p := by
      simp [Cursor.shift, Cursor.start]
    have hcuts := Occurrence.cutFrom_append (b := w ++ p)
      (o := ⟨⟨[], w ++ (p ++ s)⟩, (Cursor.start s).shift (w ++ p), v⟩) hpassed.symm t
    rwa [hpassed] at hcuts
  have hstart : Cursor.start (w ++ (p ++ s)) = ⟨[], [] ++ (w ++ (p ++ s))⟩ := rfl
  conv_lhs => unfold cut
  rw [hstart, hfirst, hnext, Option.toList_some, List.map_singleton, List.singleton_append]
  cases hv : chosen v with
  | true =>
    rw [List.filter_cons_of_pos (by exact hv), List.foldr_cons, hlater, if_pos rfl]
    exact hcut _
  | false =>
    rw [List.filter_cons_of_neg (by simp [hv]), hlater, if_neg (by simp)]

/-! ## Parts that stand for themselves -/

/-- The part `x` stands for itself between `p` and `s`: the reader looks from none of these parts
into the next one, nor from `p` into `s` if `x` is not there. -/
structure Detached (keyword : Keyword) (reader : List Char → Option α × List Char)
    (p x s : List Char) : Prop where
  /-- It does not look from the part before into it. -/
  before : Apart keyword reader p (x ++ s)
  /-- It does not look from it into the part behind. -/
  behind : Apart keyword reader x s
  /-- Nor does it look from one into the other. -/
  without : Apart keyword reader p s

variable {x : List Char}

/-- The constructs of a text with such a part are those of its three parts. -/
theorem Detached.constructs (h : Detached keyword reader p x s) (hword : IsWord keyword.letters)
    (hp : p.getLast?.any isIdent = false) (hx : Breaks x s) :
    SchemaDiagram.constructs keyword reader (p ++ (x ++ s)) =
      SchemaDiagram.constructs keyword reader p ++ (SchemaDiagram.constructs keyword reader x ++
        SchemaDiagram.constructs keyword reader s) := by
  have hbreaks (s : List Char) : Breaks p s := fun hlast => by simp [hp] at hlast
  rw [constructs_append_of_apart hword h.before (hbreaks _),
    constructs_append_of_apart hword h.behind hx]

/-- The constructs of the text without it are those of the other two. -/
theorem Detached.constructs_without (h : Detached keyword reader p x s)
    (hword : IsWord keyword.letters) (hp : p.getLast?.any isIdent = false) :
    SchemaDiagram.constructs keyword reader (p ++ s) =
      SchemaDiagram.constructs keyword reader p ++ SchemaDiagram.constructs keyword reader s :=
  constructs_append_of_apart hword h.without fun hlast => by simp [hp] at hlast

end SchemaDiagram
