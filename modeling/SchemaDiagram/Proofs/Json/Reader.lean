import Mathlib
import SchemaDiagram.Json.Record
import SchemaDiagram.Proofs.Json.Number

/-!
# Reading a written value

A reader `Reads` a value if it takes the tokens of the value off the front of any token list. What
is said of one reader carries over to readers built from it (`reads_option`, `reads_list`,
`reads_map`); members of an object are read one after another if each `Takes` its value in.
-/

namespace SchemaDiagram.Json

/-! ## Passing over a value -/

/-- A sound value has a first token. It closes no array, and is `null` only if the value is. -/
theorem exists_tokens_eq_cons {value : Json} (h : Sound value) :
    ∃ token rest, value.tokens = token :: rest ∧ token ≠ .closeBracket ∧
      (token = .null → value = null) := by
  cases h with
  | null => exact ⟨.null, [], rfl, by simp, fun _ => rfl⟩
  | bool value => exact ⟨.bool value, [], rfl, by simp, by simp⟩
  | number hnumber => exact ⟨_, [], hnumber, by simp, by simp⟩
  | string value => exact ⟨stringToken value, [], rfl, by simp [stringToken], by simp [stringToken]⟩
  | @array items _ =>
    cases items with
    | nil => exact ⟨.openBracket, _, rfl, by simp, by simp⟩
    | cons item items => exact ⟨.openBracket, _, rfl, by simp, by simp⟩
  | @object members _ =>
    cases members with
    | nil => exact ⟨.openBrace, _, rfl, by simp, by simp⟩
    | cons member members => exact ⟨.openBrace, _, rfl, by simp, by simp⟩

/-- Where an item may come or an array end, a value is passed over as any item. -/
theorem skipWithin_firstItem {value : Json} (h : Sound value) (around : List Bracket)
    (rest : List Token) :
    skipWithin .firstItem around (value.tokens ++ rest) =
      skipWithin .value around (value.tokens ++ rest) := by
  obtain ⟨token, tail, htokens, hne, -⟩ := exists_tokens_eq_cons h
  rw [htokens, List.cons_append]
  cases around with
  | nil => cases token <;> rfl
  | cons bracket around =>
    cases token with
    | closeBracket => exact absurd rfl hne
    | _ => rfl

/-- What is passed over is the value. -/
def Skips (value : Json) : Prop :=
  ∀ around rest,
    skipWithin .value around (value.tokens ++ rest) = skipWithin .next around rest

/-- Items behind the first are passed over if each of them is. -/
theorem skipWithin_itemTokens {items : List Json} (h : ∀ item ∈ items, Skips item)
    (around : List Bracket) (rest : List Token) :
    skipWithin .next (.array :: around) (itemTokens items ++ rest) =
      skipWithin .next (.array :: around) rest := by
  induction items with
  | nil => rfl
  | cons item items ih =>
    obtain ⟨hitem, hitems⟩ := List.forall_mem_cons.1 h
    rw [itemTokens, List.cons_append, List.cons_append, List.append_assoc, ← ih hitems]
    exact hitem _ _

/-- A member is passed over if its value is. -/
theorem skipWithin_memberTokens {member : String × Json} (h : Skips member.2)
    (around : List Bracket) (rest : List Token) :
    skipWithin .key (.object :: around) (memberTokens member ++ rest) =
      skipWithin .next (.object :: around) rest := by
  obtain ⟨key, value⟩ := member
  rw [memberTokens]
  exact h _ _

/-- Where a key may come or an object end, a member is passed over as any member. -/
theorem skipWithin_firstKey (member : String × Json) (bracket : Bracket) (around : List Bracket)
    (rest : List Token) :
    skipWithin .firstKey (bracket :: around) (memberTokens member ++ rest) =
      skipWithin .key (bracket :: around) (memberTokens member ++ rest) := by
  obtain ⟨key, value⟩ := member
  rw [memberTokens]
  rfl

/-- Members behind the first are passed over if the value of each of them is. -/
theorem skipWithin_membersTokens {members : List (String × Json)}
    (h : ∀ member ∈ members, Skips member.2) (around : List Bracket) (rest : List Token) :
    skipWithin .next (.object :: around) (membersTokens members ++ rest) =
      skipWithin .next (.object :: around) rest := by
  induction members with
  | nil => rfl
  | cons member members ih =>
    obtain ⟨hmember, hmembers⟩ := List.forall_mem_cons.1 h
    rw [membersTokens, List.cons_append, List.cons_append, List.append_assoc, ← ih hmembers]
    exact skipWithin_memberTokens hmember _ _

/-- A sound value is passed over. -/
theorem skips_of_sound {value : Json} (h : Sound value) : Skips value := by
  induction h with
  | null => exact fun _ _ => rfl
  | bool value => exact fun _ _ => rfl
  | number hnumber =>
    intro around rest
    rw [tokens, hnumber]
    rfl
  | string value => exact fun _ _ => rfl
  | @array items hsound ih =>
    intro around rest
    cases items with
    | nil => rfl
    | cons item items =>
      obtain ⟨hitem, hitems⟩ := List.forall_mem_cons.1 ih
      rw [tokens, List.cons_append, List.cons_append, List.cons_append, List.append_assoc,
        List.append_assoc]
      show skipWithin .firstItem (.array :: around) _ = _
      rw [skipWithin_firstItem (hsound item List.mem_cons_self), hitem,
        skipWithin_itemTokens hitems]
      rfl
  | @object members _ ih =>
    intro around rest
    cases members with
    | nil => rfl
    | cons member members =>
      obtain ⟨hmember, hmembers⟩ := List.forall_mem_cons.1 ih
      rw [tokens, List.cons_append, List.cons_append, List.cons_append, List.append_assoc,
        List.append_assoc]
      show skipWithin .firstKey (.object :: around) _ = _
      rw [skipWithin_firstKey, skipWithin_memberTokens hmember, skipWithin_membersTokens hmembers]
      rfl

/-- A sound value is passed over, and nothing else. -/
theorem skip_tokens {value : Json} (h : Sound value) (rest : List Token) :
    skip (value.tokens ++ rest) = .ok ((), rest) := by
  rw [skip, skips_of_sound h]
  cases rest <;> rfl

/-! ## Readers -/

/-- The reader takes the given value off the front of a token list that begins with its JSON
form. -/
def Reads {α : Type} (reader : Reader α) (json : Json) (value : α) : Prop :=
  ∀ rest, reader (json.tokens ++ rest) = .ok (value, rest)

section

variable {α δ : Type} {reader : Reader α} {json : Json} {value : α}

/-- A reader reads the text of a value in any layout. -/
theorem run_write {layout : Layout} (hlayout : layout.Blank) (hsound : Sound json)
    (h : Reads reader json value) :
    reader.run (String.ofList (write layout 0 json)) = .ok value := by
  have hread := h []
  rw [List.append_nil] at hread
  unfold Reader.run
  rw [String.toList_ofList, ofText_write hlayout hsound, hread]
  rfl

/-- The token of a string is read as the string. -/
theorem text_stringToken (s : String) (rest : List Token) :
    Reader.text (stringToken s :: rest) = .ok (s, rest) := by
  show (characters none _).map _ = _
  rw [characters_map_piece]
  simp [Except.map]

/-- A string is read as itself. -/
theorem reads_text (s : String) : Reads Reader.text (.string s) s :=
  text_stringToken s

/-- `true` and `false` are read as they are. -/
theorem reads_boolean (b : Bool) : Reads Reader.boolean (.bool b) b :=
  fun _ => rfl

/-- A name is read as what it names. -/
theorem reads_choice {ofName? : String → Option α} {name : String} (h : ofName? name = some value) :
    Reads (Reader.choice ofName?) (.string name) value := by
  intro rest
  show Reader.textWith ofName? (stringToken name :: rest) = _
  unfold Reader.textWith
  simp only [text_stringToken, bind, Except.bind, h]

/-- What is not `null` is read as it is where `null` is allowed as well. -/
theorem reads_option (hsound : Sound json) (hnull : json ≠ null) (h : Reads reader json value) :
    Reads reader.option json (some value) := by
  obtain ⟨token, tail, htokens, -, hfirst⟩ := exists_tokens_eq_cons hsound
  intro rest
  have hread := h rest
  rw [htokens, List.cons_append] at hread ⊢
  unfold Reader.option
  split
  · next heq => exact absurd (hfirst (List.cons.inj heq).1) hnull
  · rw [hread]
    rfl

/-! ## Numbers -/

/-- A number that comes back when it is written and read. -/
def ReadsBack (x : Float) : Prop :=
  Reader.float.run (ofFloat x).compact = .ok x

/-- It can be tried whether a number comes back. -/
instance (x : Float) : Decidable (ReadsBack x) :=
  decidable_of_iff ((Reader.float.run (ofFloat x).compact).toOption = some x) (by
    unfold ReadsBack
    cases Reader.float.run (ofFloat x).compact <;> simp [Except.toOption])

/-- A number that some number is read from when it is written, if not the same one. -/
def Legible (x : Float) : Prop :=
  (Reader.float.run (ofFloat x).compact).toOption.isSome = true

/-- It can be tried whether a number is read from it. -/
instance (x : Float) : Decidable (Legible x) :=
  inferInstanceAs (Decidable (_ = true))

/-- A text is read if its tokens are read to the end. -/
theorem of_run_eq_ok {s : String} (h : reader.run s = .ok value) :
    reader (Token.ofText s.toList) = .ok (value, []) := by
  unfold Reader.run at h
  cases hread : reader (Token.ofText s.toList) with
  | error fault =>
    rw [hread] at h
    cases h
  | ok r =>
    obtain ⟨x, rest⟩ := r
    rw [hread] at h
    cases rest with
    | nil =>
      cases h
      rfl
    | cons token rest => cases h

/-- A number is read from its token. -/
theorem exists_numeral_of_float {ts rest : List Token} {x : Float}
    (h : Reader.float ts = .ok (x, rest)) : ∃ n, ts = .number n :: rest ∧ n.toFloat? = some x := by
  unfold Reader.float at h
  split at h
  · next n tail =>
    split at h
    · next hvalue =>
      cases h
      exact ⟨n, rfl, hvalue⟩
    · cases h
  · cases h

/-- What is read from the text of a number is read from its JSON form. -/
theorem reads_float {x y : Float} (h : Reader.float.run (ofFloat x).compact = .ok y) :
    Reads Reader.float (ofFloat x) y := by
  have hread := of_run_eq_ok h
  rw [compact, String.toList_ofList, ofText_write Layout.blank_compact (sound_ofFloat x)] at hread
  obtain ⟨n, htokens, hvalue⟩ := exists_numeral_of_float hread
  intro rest
  rw [htokens]
  show Reader.float (.number n :: rest) = _
  simp only [Reader.float, hvalue]

/-- A number that comes back is read as itself. -/
theorem ReadsBack.reads {x : Float} (h : ReadsBack x) : Reads Reader.float (ofFloat x) x :=
  reads_float h

/-- A legible number is read as some number. -/
theorem Legible.exists_reads {x : Float} (h : Legible x) :
    ∃ y, Reads Reader.float (ofFloat x) y := by
  unfold Legible at h
  cases hrun : Reader.float.run (ofFloat x).compact with
  | error fault =>
    rw [hrun] at h
    cases h
  | ok y => exact ⟨y, reads_float hrun⟩

/-! ## Arrays -/

variable {toJson : α → Json}

/-- Behind an opening bracket that is not closed at once there are items. -/
theorem list_of_ne {token : Token} (h : token ≠ .closeBracket) (rest : List Token) :
    Reader.list reader (.openBracket :: token :: rest) = Reader.items reader (token :: rest) := by
  cases token with
  | closeBracket => exact absurd rfl h
  | _ => rfl

/-- The items of an array are read one after another. -/
theorem items_of_reads {x : α} {xs : List α} (hx : Reads reader (toJson x) x)
    (hxs : ∀ y ∈ xs, Reads reader (toJson y) y) (hsound : ∀ y ∈ xs, Sound (toJson y))
    (rest : List Token) :
    Reader.items reader
        ((toJson x).tokens ++ (itemTokens (xs.map toJson) ++ .closeBracket :: rest)) =
      .ok (x :: xs, rest) := by
  induction xs generalizing x with
  | nil =>
    rw [Reader.items, hx]
    rfl
  | cons y ys ih =>
    obtain ⟨hy, hys⟩ := List.forall_mem_cons.1 hxs
    obtain ⟨hysound, hyssound⟩ := List.forall_mem_cons.1 hsound
    obtain ⟨token, tail, htokens, hclose, -⟩ := exists_tokens_eq_cons hysound
    have hitems := ih hy hys hyssound
    rw [Reader.items, hx, List.map_cons, itemTokens]
    simp only [htokens, List.cons_append, List.append_assoc, bind, Except.bind] at hitems ⊢
    split
    · next heq => cases heq
    · next heq =>
      cases heq
      exact absurd rfl hclose
    · next heq =>
      cases heq
      rw [if_pos, hitems]
      simp only [List.length_append, List.length_cons]
      omega
    · next heq => exact absurd rfl (heq _)

/-- An array is read if its items are. -/
theorem reads_list {xs : List α} (h : ∀ x ∈ xs, Reads reader (toJson x) x)
    (hsound : ∀ x ∈ xs, Sound (toJson x)) :
    Reads (Reader.list reader) (.array (xs.map toJson)) xs := by
  intro rest
  cases xs with
  | nil => rfl
  | cons x xs =>
    obtain ⟨hx, hxs⟩ := List.forall_mem_cons.1 h
    obtain ⟨hxsound, hxssound⟩ := List.forall_mem_cons.1 hsound
    obtain ⟨token, tail, htokens, hclose, -⟩ := exists_tokens_eq_cons hxsound
    have hitems := items_of_reads hx hxs hxssound rest
    rw [List.map_cons, tokens]
    simp only [List.cons_append, List.append_assoc, List.nil_append]
    rw [← hitems, htokens]
    exact list_of_ne hclose _

/-! ## Objects -/

/-- `step` reads the value of a member, behind its key, into what has been read so far. -/
def Takes (step : String → δ → Reader δ) (member : String × Json) (read next : δ) : Prop :=
  ∀ rest, step member.1 read (.colon :: member.2.tokens ++ rest) = .ok (next, rest)

/-- `step` reads one member after another. -/
inductive TakesAll (step : String → δ → Reader δ) : List (String × Json) → δ → δ → Prop where
  | nil (read : δ) : TakesAll step [] read read
  | cons {member : String × Json} {members : List (String × Json)} {read next last : δ} :
    Takes step member read next → TakesAll step members next last →
      TakesAll step (member :: members) read last

variable {step : String → δ → Reader δ} {members : List (String × Json)} {read next last : δ}

/-- Members are read one after another if those of the front and those of the back are. -/
theorem TakesAll.append {others : List (String × Json)} (h : TakesAll step members read next)
    (hothers : TakesAll step others next last) : TakesAll step (members ++ others) read last := by
  induction h with
  | nil read => exact hothers
  | cons hmember _ ih => exact .cons hmember (ih hothers)

/-- The key of a member is read, and its value taken in. -/
theorem members_memberTokens {member : String × Json} (h : Takes step member read next)
    (rest : List Token) :
    Reader.members step read (memberTokens member ++ rest) =
      match rest with
      | .closeBrace :: rest => .ok (next, rest)
      | .comma :: rest => Reader.members step next rest
      | rest => .error (Reader.separatorFault rest) := by
  obtain ⟨key, json⟩ := member
  have hvalue : step key read (.colon :: json.tokens ++ rest) = .ok (next, rest) := h rest
  rw [memberTokens, List.cons_append, Reader.members, if_neg (by simp [Reader.atKey, stringToken]),
    text_stringToken]
  simp only [bind, Except.bind, hvalue]
  cases rest with
  | nil => rfl
  | cons token rest =>
    cases token with
    | comma =>
      have hlt : rest.length <
          (stringToken key :: (Token.colon :: json.tokens ++ Token.comma :: rest)).length := by
        simp only [List.length_cons, List.length_append]
        omega
      exact if_pos hlt
    | _ => rfl

/-- The members of an object are read one after another. -/
theorem members_of_takesAll {member : String × Json} (hmember : Takes step member read next)
    (hmembers : TakesAll step members next last) (rest : List Token) :
    Reader.members step read
        (memberTokens member ++ (membersTokens members ++ .closeBrace :: rest)) =
      .ok (last, rest) := by
  induction hmembers generalizing member read with
  | nil next => rw [members_memberTokens hmember, membersTokens, List.nil_append]
  | cons hnext hmembers ih =>
    rw [members_memberTokens hmember, membersTokens, List.cons_append, List.cons_append,
      List.append_assoc]
    exact ih hnext

/-- An object is read behind its opening brace. -/
theorem object_of_takesAll (h : TakesAll step members read last) : ∃ body,
    (Json.object members).tokens = .openBrace :: body ∧
      ∀ rest, Reader.object step read (body ++ rest) = .ok (last, rest) := by
  cases h with
  | nil => exact ⟨[.closeBrace], rfl, fun rest => rfl⟩
  | @cons member members _ next _ hmember hmembers =>
    refine ⟨memberTokens member ++ membersTokens members ++ [.closeBrace], ?_, fun rest => ?_⟩
    · rw [tokens]
      rfl
    · rw [List.append_assoc, List.append_assoc, ← members_of_takesAll hmember hmembers rest]
      obtain ⟨key, json⟩ := member
      rw [memberTokens]
      rfl

/-- The members of an object are inserted into a map one after another if their values are read. -/
theorem takesAll_map {β μ : Type} {toJson : β → Json} {value : String × β → α}
    {insert : μ → String → α → μ} {entries : List (String × β)}
    (h : ∀ entry ∈ entries, Reads reader (toJson entry.2) (value entry)) (empty : μ) :
    TakesAll (fun key read tokens => do
        let ((), tokens) ← Reader.colon tokens
        let (x, tokens) ← reader tokens
        .ok (insert read key x, tokens))
      (entries.map fun entry => (entry.1, toJson entry.2)) empty
      (entries.foldl (fun m entry => insert m entry.1 (value entry)) empty) := by
  induction entries generalizing empty with
  | nil => exact .nil empty
  | cons entry entries ih =>
    obtain ⟨hentry, hentries⟩ := List.forall_mem_cons.1 h
    refine .cons (fun rest => ?_) (ih hentries _)
    simp only [List.cons_append, Reader.colon, bind, Except.bind, hentry rest]

/-- An object is read as a map if the values of its members are read. -/
theorem reads_map {β μ : Type} {toJson : β → Json} {value : String × β → α}
    {insert : μ → String → α → μ} {entries : List (String × β)}
    (h : ∀ entry ∈ entries, Reads reader (toJson entry.2) (value entry)) (empty : μ) :
    Reads (Reader.map reader insert empty)
      (.object (entries.map fun entry => (entry.1, toJson entry.2)))
      (entries.foldl (fun m entry => insert m entry.1 (value entry)) empty) := by
  obtain ⟨body, htokens, hbody⟩ := object_of_takesAll (takesAll_map h empty)
  intro rest
  rw [htokens, List.cons_append]
  exact hbody rest

end

end SchemaDiagram.Json
