import Mathlib
import SchemaDiagram.Proofs.Json.Token

/-!
# The tokens of a written value

`Json.tokens` are the tokens of a value. In whatever layout a value is written, these are the tokens
of its text (`Json.ofText_write`), provided that the value is `Sound`, that is, that the literals of
its numbers are numbers. The keys of an object stand in quotes in its text
(`Json.quote_infix_write`).
-/

namespace SchemaDiagram.Json

open Token (ofText Ends)

/-! ## Tokens -/

/-- The token of a string. -/
def stringToken (s : String) : Token :=
  .string (s.toList.map Token.piece)

mutual

/-- The tokens of a value. -/
def tokens : Json → List Token
  | null => [.null]
  | bool value => [.bool value]
  | number literal => ofText literal
  | string value => [stringToken value]
  | array [] => [.openBracket, .closeBracket]
  | array (item :: items) => .openBracket :: tokens item ++ itemTokens items ++ [.closeBracket]
  | object [] => [.openBrace, .closeBrace]
  | object (member :: members) =>
    .openBrace :: memberTokens member ++ membersTokens members ++ [.closeBrace]

/-- The tokens of the items of an array behind the first. -/
def itemTokens : List Json → List Token
  | [] => []
  | item :: items => .comma :: tokens item ++ itemTokens items

/-- The tokens of a member. -/
def memberTokens : String × Json → List Token
  | (key, value) => stringToken key :: .colon :: tokens value

/-- The tokens of the members of an object behind the first. -/
def membersTokens : List (String × Json) → List Token
  | [] => []
  | member :: members => .comma :: memberTokens member ++ membersTokens members

end

/-- The literals of all numbers in a value are numbers. -/
inductive Sound : Json → Prop where
  | null : Sound null
  | bool (value : Bool) : Sound (bool value)
  | number {literal : List Char} {n : Numeral} : ofText literal = [.number n] →
    Sound (number literal)
  | string (value : String) : Sound (string value)
  | array {items : List Json} : (∀ item ∈ items, Sound item) → Sound (array items)
  | object {members : List (String × Json)} : (∀ member ∈ members, Sound member.2) →
    Sound (object members)

/-! ## Layouts -/

/-- A layout only puts blanks between tokens. -/
structure Layout.Blank (layout : Layout) : Prop where
  /-- Line breaks are blanks. -/
  newLine : ∀ depth, ∀ c ∈ layout.newLine depth, Token.isBlank c = true
  /-- What stands behind a colon is blanks. -/
  afterColon : ∀ c ∈ layout.afterColon, Token.isBlank c = true

/-- The layout without blanks is blank. -/
theorem Layout.blank_compact : compact.Blank := by
  constructor
  · exact fun _ _ hc => absurd hc List.not_mem_nil
  · exact fun _ hc => absurd hc List.not_mem_nil

/-- So is the one with an item a line. -/
theorem Layout.blank_pretty : pretty.Blank := by
  constructor
  · intro depth c hc
    rcases List.mem_cons.1 hc with rfl | hc
    · rfl
    · rw [List.eq_of_mem_replicate hc]
      rfl
  · intro c hc
    obtain rfl := List.mem_singleton.1 hc
    rfl

namespace Token

variable {rest : List Char}

/-- The token of a single character. -/
theorem ofText_cons_of_single {c : Char} {token : Token} (h : single? c = some token)
    (hblank : isBlank c = false) (s : List Char) : ofText (c :: s) = token :: ofText s := by
  refine ofText_cons_of_read hblank ?_
  unfold read
  rw [h]

/-- The token of a string in quotes. -/
theorem ofText_quote (s : String) (rest : List Char) :
    ofText (quote s.toList ++ rest) = stringToken s :: ofText rest := by
  have hread : read '"' (s.toList.flatMap Json.escape ++ '"' :: rest) =
      (stringToken s, some rest) := by
    show ofPieces (pieces _) = _
    rw [pieces_flatMap_escape]
    rfl
  unfold quote
  rw [List.cons_append, List.cons_append, List.append_assoc]
  exact ofText_cons_of_read rfl hread

/-- A number ends in front of a character that is no part of one. -/
theorem ends_cons {c : Char} (h : c.isDigit = false ∧ c ≠ '.' ∧ c ≠ 'e' ∧ c ≠ 'E')
    (s : List Char) : Ends (c :: s) := by
  intro d hd
  obtain rfl := Option.some.inj hd
  exact h

/-- A number ends in front of blanks, and if there are none in front of what follows. -/
theorem ends_append_of_blank {blanks : List Char} (h : ∀ c ∈ blanks, isBlank c = true)
    (hrest : Ends rest) : Ends (blanks ++ rest) := by
  cases blanks with
  | nil => exact hrest
  | cons c blanks =>
    refine ends_cons ?_ _
    have hc := h c List.mem_cons_self
    simp only [isBlank, Bool.or_eq_true, beq_iff_eq] at hc
    rcases hc with ((rfl | rfl) | rfl) | rfl <;> decide

end Token

/-! ## Written values -/

/-- A value written in the given layout is read as its tokens where a number ends. -/
def Lexes (layout : Layout) (value : Json) : Prop :=
  ∀ depth rest, Ends rest → ofText (write layout depth value ++ rest) = value.tokens ++ ofText rest

variable {layout : Layout}

/-- A member is read as its tokens if its value is. -/
theorem ofText_writeMember (hlayout : layout.Blank) {member : String × Json}
    (h : Lexes layout member.2) (depth : Nat) {rest : List Char} (hrest : Ends rest) :
    ofText (writeMember layout depth member ++ rest) = memberTokens member ++ ofText rest := by
  obtain ⟨key, value⟩ := member
  rw [writeMember, memberTokens, List.append_assoc, List.append_assoc, Token.ofText_quote,
    List.cons_append, Token.ofText_cons_of_single rfl rfl,
    Token.ofText_append_of_blank hlayout.afterColon, h depth rest hrest]
  rfl

/-- Items behind the first are read as their tokens if each of them is. -/
theorem ofText_writeItems (hlayout : layout.Blank) {items : List Json}
    (h : ∀ item ∈ items, Lexes layout item) (depth : Nat) {rest : List Char} (hrest : Ends rest) :
    ofText (writeItems layout depth items ++ rest) = itemTokens items ++ ofText rest ∧
      Ends (writeItems layout depth items ++ rest) := by
  induction items with
  | nil =>
    rw [writeItems, itemTokens]
    exact ⟨rfl, hrest⟩
  | cons item items ih =>
    obtain ⟨hitem, hitems⟩ := List.forall_mem_cons.1 h
    obtain ⟨htail, hends⟩ := ih hitems
    rw [writeItems, itemTokens]
    simp only [List.cons_append, List.append_assoc]
    constructor
    · rw [Token.ofText_cons_of_single rfl rfl,
        Token.ofText_append_of_blank (hlayout.newLine depth), hitem depth _ hends, htail]
    · exact Token.ends_cons (by decide) _

/-- Members behind the first are read as their tokens if the value of each of them is. -/
theorem ofText_writeMembers (hlayout : layout.Blank) {members : List (String × Json)}
    (h : ∀ member ∈ members, Lexes layout member.2) (depth : Nat) {rest : List Char}
    (hrest : Ends rest) :
    ofText (writeMembers layout depth members ++ rest) = membersTokens members ++ ofText rest ∧
      Ends (writeMembers layout depth members ++ rest) := by
  induction members with
  | nil =>
    rw [writeMembers, membersTokens]
    exact ⟨rfl, hrest⟩
  | cons member members ih =>
    obtain ⟨hmember, hmembers⟩ := List.forall_mem_cons.1 h
    obtain ⟨htail, hends⟩ := ih hmembers
    rw [writeMembers, membersTokens]
    simp only [List.cons_append, List.append_assoc]
    constructor
    · rw [Token.ofText_cons_of_single rfl rfl,
        Token.ofText_append_of_blank (hlayout.newLine depth),
        ofText_writeMember hlayout hmember depth hends, htail]
    · exact Token.ends_cons (by decide) _

/-- A sound value is read as its tokens. -/
theorem lexes_of_sound (hlayout : layout.Blank) {value : Json} (h : Sound value) :
    Lexes layout value := by
  induction h with
  | null =>
    intro depth rest _
    exact Token.ofText_cons_of_read rfl rfl
  | bool value =>
    intro depth rest _
    cases value with
    | true => exact Token.ofText_cons_of_read rfl rfl
    | false => exact Token.ofText_cons_of_read rfl rfl
  | number hnumber =>
    intro depth rest hrest
    rw [write, Token.ofText_append_of_number hnumber hrest, tokens, hnumber]
    rfl
  | string value =>
    intro depth rest _
    rw [write, Token.ofText_quote, tokens]
    rfl
  | @array items _ ih =>
    intro depth rest _
    cases items with
    | nil =>
      rw [write, tokens]
      simp only [List.cons_append, List.nil_append]
      rw [Token.ofText_cons_of_single rfl rfl, Token.ofText_cons_of_single rfl rfl]
    | cons item items =>
      obtain ⟨hitem, hitems⟩ := List.forall_mem_cons.1 ih
      -- Behind the items comes a line break and the closing bracket.
      have hclose : Ends (layout.newLine depth ++ ']' :: rest) :=
        Token.ends_append_of_blank (hlayout.newLine depth) (Token.ends_cons (by decide) _)
      obtain ⟨htail, hends⟩ := ofText_writeItems hlayout hitems (depth + 1) hclose
      rw [write, tokens]
      simp only [List.cons_append, List.append_assoc, List.nil_append]
      rw [Token.ofText_cons_of_single rfl rfl,
        Token.ofText_append_of_blank (hlayout.newLine (depth + 1)), hitem (depth + 1) _ hends,
        htail, Token.ofText_append_of_blank (hlayout.newLine depth), Token.ofText_cons_of_single rfl rfl]
  | @object members _ ih =>
    intro depth rest _
    cases members with
    | nil =>
      rw [write, tokens]
      simp only [List.cons_append, List.nil_append]
      rw [Token.ofText_cons_of_single rfl rfl, Token.ofText_cons_of_single rfl rfl]
    | cons member members =>
      obtain ⟨hmember, hmembers⟩ := List.forall_mem_cons.1 ih
      have hclose : Ends (layout.newLine depth ++ '}' :: rest) :=
        Token.ends_append_of_blank (hlayout.newLine depth) (Token.ends_cons (by decide) _)
      obtain ⟨htail, hends⟩ := ofText_writeMembers hlayout hmembers (depth + 1) hclose
      rw [write, tokens]
      simp only [List.cons_append, List.append_assoc, List.nil_append]
      rw [Token.ofText_cons_of_single rfl rfl,
        Token.ofText_append_of_blank (hlayout.newLine (depth + 1)),
        ofText_writeMember hlayout hmember (depth + 1) hends, htail,
        Token.ofText_append_of_blank (hlayout.newLine depth), Token.ofText_cons_of_single rfl rfl]

/-- The tokens of the text of a sound value. -/
theorem ofText_write (hlayout : layout.Blank) {value : Json} (h : Sound value) :
    ofText (write layout 0 value) = value.tokens := by
  have hlexes := lexes_of_sound hlayout h 0 [] (fun _ h => nomatch h)
  rw [List.append_nil] at hlexes
  rw [hlexes, ofText, List.append_nil]

/-! ## Keys -/

/-- A member is part of the text of the members behind the first. -/
theorem infix_writeMembers {member : String × Json} {members : List (String × Json)}
    (h : member ∈ members) (depth : Nat) :
    writeMember layout depth member <:+: writeMembers layout depth members := by
  induction members with
  | nil => cases h
  | cons first members ih =>
    rw [writeMembers]
    rcases List.mem_cons.1 h with rfl | hmem
    · exact List.infix_append _ _ _
    · exact (ih hmem).trans (List.suffix_append _ _).isInfix

/-- The keys of an object stand in quotes in its text. -/
theorem quote_infix_write {member : String × Json} {members : List (String × Json)}
    (h : member ∈ members) (depth : Nat) :
    quote member.1.toList <:+: write layout depth (object members) := by
  have hkey (depth : Nat) : quote member.1.toList <:+: writeMember layout depth member := by
    rw [writeMember, List.append_assoc]
    exact (List.prefix_append _ _).isInfix
  refine (hkey (depth + 1)).trans ?_
  cases members with
  | nil => cases h
  | cons first members =>
    rw [write]
    -- Behind the members there are still a line break and the closing brace.
    refine List.IsInfix.trans ?_
      ((List.prefix_append _ _).trans (List.prefix_append _ _)).isInfix
    rcases List.mem_cons.1 h with rfl | hmem
    · exact List.infix_append _ _ _
    · exact (infix_writeMembers hmem _).trans (List.suffix_append _ _).isInfix

end SchemaDiagram.Json
