import SchemaDiagram.Proofs.Text.Character

/-!
# Trimming and cutting

A text is trimmed when neither of its ends is a blank (`trim_of_ends`), and blanks around a text do
not change what trimming leaves (`trim_blanks_append`, `trim_append_blanks`). The trimmed pieces of
a text between two characters of a kind do not see the blanks around the whole
(`trimmedPieces_blanks_append`). What holds of the members of a list with separators between them
holds of the list (`intercalate_induction`). One list occurs in two joined by an element that is not
in it only if it occurs in one of the two (`infix_append_cons`).
-/

namespace SchemaDiagram.Text

open Character

/-! ## Trimming -/

/-- Blanks in front of a text are cut off. -/
theorem trim_blanks_append {b s : List Char} (hb : ∀ c ∈ b, isBlank c = true) :
    trim (b ++ s) = trim s := by
  unfold trim trimStart
  rw [List.dropWhile_append_of_pos hb]

/-- Blanks behind a text are cut off. -/
theorem trim_append_blanks {b s : List Char} (hb : ∀ c ∈ b, isBlank c = true) :
    trim (s ++ b) = trim s := by
  have hend (t : List Char) : trimEnd (t ++ b) = trimEnd t := by
    unfold trimEnd
    rw [List.reverse_append, List.dropWhile_append_of_pos (by simpa using hb)]
  unfold trim trimStart
  rw [List.dropWhile_append]
  -- Trimming the start reaches the blanks at the end only if there is nothing else.
  split
  · next h =>
    have hs : s.dropWhile isBlank = [] := by simpa using h
    rw [hs, ← List.nil_append (b.dropWhile isBlank)]
    have hall : b.dropWhile isBlank = [] := by simpa using hb
    rw [hall]
    rfl
  · exact hend _

/-- A text that neither begins nor ends with a blank is left as it is. -/
theorem trim_of_ends {s : List Char} (hhead : s.head?.any isBlank = false)
    (hlast : s.getLast?.any isBlank = false) : trim s = s := by
  have hstart : trimStart s = s := by
    unfold trimStart
    cases s with
    | nil => rfl
    | cons c s => simpa using hhead
  unfold trim
  rw [hstart]
  unfold trimEnd
  -- The first character of the reversed text is the last one of the text.
  cases hr : s.reverse with
  | nil => simpa using hr.symm
  | cons c t =>
    have hc : isBlank c = false := by
      rw [← List.head?_reverse, hr] at hlast
      simpa using hlast
    rw [List.dropWhile_cons, if_neg (by simp [hc]), ← hr, List.reverse_reverse]

/-- What remains after dropping does not begin with what is dropped. -/
theorem head?_dropWhile_any {p : Char → Bool} (s : List Char) :
    (s.dropWhile p).head?.any p = false := by
  have h := List.head?_dropWhile_not p s
  cases hs : (s.dropWhile p).head? with
  | none => rfl
  | some c => simpa [hs] using h

/-- Trimming keeps the beginning of a text if that neither begins nor ends with a blank. -/
theorem exists_trim_append {s : List Char} (hhead : s.head?.any isBlank = false)
    (hlast : s.getLast?.any isBlank = false) (t : List Char) :
    ∃ rest, trim (s ++ t) = s ++ rest := by
  rcases s with - | ⟨c, s⟩
  · exact ⟨trim t, rfl⟩
  have hblanks : ∀ x ∈ (t.reverse.takeWhile isBlank).reverse, isBlank x = true := by
    intro x hx
    exact List.mem_takeWhile_imp (List.mem_reverse.1 hx)
  have hsplit : trimEnd t ++ (t.reverse.takeWhile isBlank).reverse = t := by
    unfold trimEnd
    rw [← List.reverse_append, List.takeWhile_append_dropWhile, List.reverse_reverse]
  refine ⟨trimEnd t, ?_⟩
  -- The blanks at the end of the text are at the end of the second part.
  rw [← hsplit, ← List.append_assoc, trim_append_blanks hblanks, hsplit]
  refine trim_of_ends hhead ?_
  have hend : (trimEnd t).getLast?.any isBlank = false := by
    unfold trimEnd
    rw [List.getLast?_reverse]
    exact head?_dropWhile_any _
  rw [List.getLast?_append]
  cases h : (trimEnd t).getLast? with
  | none => exact hlast
  | some x => rwa [h] at hend

/-- A text is what trimming leaves of it with blanks on both sides. -/
theorem exists_blanks_trim (s : List Char) : ∃ a b, (∀ c ∈ a, isBlank c = true) ∧
    (∀ c ∈ b, isBlank c = true) ∧ s = a ++ (trim s ++ b) := by
  have hend : trim s ++ ((trimStart s).reverse.takeWhile isBlank).reverse = trimStart s := by
    unfold trim trimEnd
    rw [← List.reverse_append, List.takeWhile_append_dropWhile, List.reverse_reverse]
  refine ⟨s.takeWhile isBlank, ((trimStart s).reverse.takeWhile isBlank).reverse,
    fun _ hc => List.mem_takeWhile_imp hc,
    fun _ hc => List.mem_takeWhile_imp (List.mem_reverse.1 hc), ?_⟩
  rw [hend]
  exact List.takeWhile_append_dropWhile.symm

/-- What trimming leaves is in the text. -/
theorem mem_of_mem_trim {c : Char} {s : List Char} (h : c ∈ trim s) : c ∈ s := by
  obtain ⟨a, b, -, -, hs⟩ := exists_blanks_trim s
  rw [hs]
  exact List.mem_append_right a (List.mem_append_left b h)

/-- A trimmed text is not trimmed any further. -/
theorem trim_trim (s : List Char) : trim (trim s) = trim s := by
  obtain ⟨a, b, ha, hb, hs⟩ := exists_blanks_trim s
  conv_rhs => rw [hs, trim_blanks_append ha, trim_append_blanks hb]

/-- The ends of a trimmed text are no blanks. -/
theorem ends_of_trim {s : List Char} (h : trim s = s) :
    s.head?.any isBlank = false ∧ s.getLast?.any isBlank = false := by
  have hstart : (trimStart s).length ≤ s.length := (List.dropWhile_suffix _).length_le
  have hend : (trimEnd (trimStart s)).length ≤ (trimStart s).length := by
    unfold trimEnd
    simpa using (List.dropWhile_suffix isBlank (l := (trimStart s).reverse)).length_le
  -- Neither of the two steps of trimming lengthens the text, so neither may shorten it.
  have hlen : (trimEnd (trimStart s)).length = s.length := congrArg List.length h
  have hs : trimStart s = s := (List.dropWhile_suffix _).eq_of_length
    (show (trimStart s).length = s.length by omega)
  refine ⟨?_, ?_⟩
  · rw [← hs]
    exact head?_dropWhile_any s
  · have he : trimEnd s = s := by
      unfold trim at h
      rwa [hs] at h
    rw [← he, trimEnd, List.getLast?_reverse]
    exact head?_dropWhile_any _

/-! ## Pieces -/

/-- The pieces of a text between the given characters, without the blanks around them. -/
def trimmedPieces (separator : Char) (s : List Char) : List (List Char) :=
  (s.splitOn separator).map trim

variable {separator : Char}

/-- A separator divides the pieces. -/
theorem trimmedPieces_cons (s t : List Char) :
    trimmedPieces separator (s ++ separator :: t) =
      trimmedPieces separator s ++ trimmedPieces separator t := by
  unfold trimmedPieces
  rw [List.splitOn_eq_splitOnP, List.splitOnP_append_cons _ _ (by simp), List.map_append]
  rfl

/-- A text without separators is a single piece. -/
theorem trimmedPieces_of_not_mem {s : List Char} (h : separator ∉ s) :
    trimmedPieces separator s = [trim s] := by
  unfold trimmedPieces
  rw [List.splitOn_eq_splitOnP, List.splitOnP_eq_singleton]
  · rfl
  · intro c hc
    rw [beq_eq_false_iff_ne]
    rintro rfl
    exact h hc

/-- A text without separators is the beginning of the first piece, and the others are those of the
text behind it. -/
theorem exists_trimmedPieces_append {s : List Char} (h : separator ∉ s) (t : List Char) :
    ∃ first, trimmedPieces separator (s ++ t) =
      trim (s ++ first) :: (trimmedPieces separator t).tail := by
  by_cases ht : separator ∈ t
  · obtain ⟨p, rest, rfl, hp⟩ := List.eq_append_cons_of_mem ht
    refine ⟨p, ?_⟩
    rw [← List.append_assoc, trimmedPieces_cons, trimmedPieces_cons,
      trimmedPieces_of_not_mem (by simp [h, hp]), trimmedPieces_of_not_mem hp]
    rfl
  · refine ⟨t, ?_⟩
    rw [trimmedPieces_of_not_mem (by simp [h, ht]), trimmedPieces_of_not_mem ht]
    rfl

/-- Blanks in front of a text do not change its trimmed pieces. -/
theorem trimmedPieces_blanks_append (hsep : isBlank separator = false) {b s : List Char}
    (hb : ∀ c ∈ b, isBlank c = true) :
    trimmedPieces separator (b ++ s) = trimmedPieces separator s := by
  have hnot : separator ∉ b := by
    intro h
    rw [hb _ h] at hsep
    cases hsep
  -- The blanks belong to the piece in front of the first separator, or to the only piece.
  by_cases hs : separator ∈ s
  · obtain ⟨p, t, rfl, hp⟩ := List.eq_append_cons_of_mem hs
    rw [← List.append_assoc, trimmedPieces_cons, trimmedPieces_cons,
      trimmedPieces_of_not_mem (by simp [hnot, hp]), trimmedPieces_of_not_mem hp,
      trim_blanks_append hb]
  · rw [trimmedPieces_of_not_mem (by simp [hnot, hs]), trimmedPieces_of_not_mem hs,
      trim_blanks_append hb]

/-- Blanks behind a text do not change its trimmed pieces. -/
theorem trimmedPieces_append_blanks (hsep : isBlank separator = false) {b s : List Char}
    (hb : ∀ c ∈ b, isBlank c = true) :
    trimmedPieces separator (s ++ b) = trimmedPieces separator s := by
  have hnot : separator ∉ b := by
    intro h
    rw [hb _ h] at hsep
    cases hsep
  by_cases hs : separator ∈ s
  · -- The blanks belong to the piece behind the last separator.
    obtain ⟨p, t, hrev, hp⟩ := List.eq_append_cons_of_mem (List.mem_reverse.2 hs)
    have heq : s = t.reverse ++ separator :: p.reverse := by
      rw [← List.reverse_reverse s, hrev]
      simp
    have hp' : separator ∉ p.reverse := by simpa using hp
    have hpb : separator ∉ p.reverse ++ b := by simp [hp, hnot]
    rw [heq, List.append_assoc, List.cons_append, trimmedPieces_cons, trimmedPieces_cons,
      trimmedPieces_of_not_mem hpb, trimmedPieces_of_not_mem hp', trim_append_blanks hb]
  · rw [trimmedPieces_of_not_mem (by simp [hnot, hs]), trimmedPieces_of_not_mem hs,
      trim_append_blanks hb]

/-! ## Joined lists -/

/-- What holds of the members of a list holds of all of it with a separator between them, if it
holds on when a member and a separator come in front. -/
theorem intercalate_induction {P : List Char → Prop} {separator : List Char}
    {items : List (List Char)} (hnil : P []) (hitem : ∀ a ∈ items, P a)
    (hcons : ∀ a ∈ items, ∀ s, P s → P (a ++ (separator ++ s))) :
    P (separator.intercalate items) := by
  induction items with
  | nil => exact hnil
  | cons a items ih =>
    cases items with
    | nil =>
      rw [List.intercalate_singleton]
      exact hitem a List.mem_cons_self
    | cons b items =>
      have hrest := ih (fun x hx => hitem x (List.mem_cons_of_mem _ hx))
        fun x hx => hcons x (List.mem_cons_of_mem _ hx)
      rw [List.intercalate_cons_cons, List.append_assoc]
      exact hcons a List.mem_cons_self _ hrest

/-- What holds of the members of a list holds of all of it with commas between them. -/
theorem comma_induction {P : List Char → Prop} {items : List (List Char)} (hnil : P [])
    (hitem : ∀ a ∈ items, P a) (hcons : ∀ a ∈ items, ∀ s, P s → P (a ++ ',' :: ' ' :: s)) :
    P (", ".toList.intercalate items) :=
  intercalate_induction hnil hitem hcons

/-! ## Occurrences -/

/-- A part that is found in a list stands somewhere in it. -/
theorem occursIn_iff {α : Type} [BEq α] [LawfulBEq α] {part s : List α} :
    occursIn part s = true ↔ part <:+: s := by
  induction s with
  | nil => simp [occursIn]
  | cons c s ih =>
    rw [occursIn, Bool.or_eq_true, ih, List.isPrefixOf_iff_prefix, List.infix_cons_iff]

/-- What has no element in common with the separator occurs on one side of it. -/
theorem infix_append_cons {α : Type} {part s t : List α} {m : α} (hm : m ∉ part) :
    part <:+: s ++ m :: t ↔ part <:+: s ∨ part <:+: t := by
  constructor
  · rintro ⟨a, b, hab⟩
    -- The part ends in front of the separator, or it reaches at least up to it.
    rcases List.append_eq_append_iff.1 hab with ⟨u, rfl, -⟩ | ⟨u, hu, hmu⟩
    · exact .inl ⟨a, u, rfl⟩
    · cases u with
      | nil => exact .inl ⟨a, [], by simpa using hu⟩
      | cons x u =>
        obtain ⟨rfl, rfl⟩ := List.cons.inj hmu
        -- The separator stands in front of the part, since it is not in it.
        rcases List.append_eq_append_iff.1 hu with ⟨v, -, hv⟩ | ⟨v, -, hv⟩
        · exact absurd (by simp [hv]) hm
        · cases v with
          | nil => exact absurd (by simp at hv; simp [← hv]) hm
          | cons y v =>
            obtain ⟨-, rfl⟩ := List.cons.inj hv
            exact .inr ⟨v, b, rfl⟩
  · rintro (h | h)
    · exact h.trans (List.infix_append' [] s (m :: t))
    · exact h.trans ⟨s ++ [m], [], by simp⟩

/-- Two elements occur behind each other in three of which the first one is another if they are the
last two. -/
theorem pair_infix_iff {α : Type} {a b x y z : α} (h : x ≠ a) :
    [a, b] <:+: [x, y, z] ↔ [y, z] = [a, b] := by
  constructor
  · rintro ⟨p, q, heq⟩
    -- They cannot begin with the first of the three, nor behind the second one.
    match p with
    | [] => exact absurd (List.cons.inj heq).1.symm h
    | [_] =>
      have htail := (List.cons.inj heq).2
      have hnil : q = [] := by simpa using congrArg List.length htail
      rw [hnil] at htail
      exact htail.symm
    | _ :: _ :: p =>
      have hlength := congrArg List.length heq
      simp only [List.length_append, List.length_cons, List.length_nil] at hlength
      omega
  · intro heq
    rw [← heq]
    exact List.infix_cons List.infix_rfl

end SchemaDiagram.Text
