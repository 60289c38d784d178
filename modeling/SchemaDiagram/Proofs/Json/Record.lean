import SchemaDiagram.Json.Record
import SchemaDiagram.Proofs.Json.Reader

/-!
# Reading a written record

A record is read from an object by way of what each member adds: a member is read into the field of
its key (`Record.takes_field`), past the fields of other keys (`Record.takes_other`), and skipped if
no field has its key (`Record.takesAll_of_none`). `Record.Fills` says what record the members of an
object make. It follows the way in which records are built: each field that is added is given by one
more member or is missing and falls back, and members of other keys may come in between.
-/

namespace SchemaDiagram.Json.Record

variable {α β γ δ : Type} {json : Json} {members : List (String × Json)} {read next last : δ}

/-! ## Members -/

section

variable {key : String} {fieldReader : Reader β} {fallback : Option β}
  {fields : Record δ (β → α)} {r : Record δ α}

/-- The member of a field is read into it. -/
theorem takes_field {y : β} (h : Reads fieldReader json y) (read : δ) :
    Takes (fields.field key fieldReader fallback).member (key, json) (read, none)
      (read, some y) := by
  intro rest
  simp only [member, field, if_pos, List.cons_append, Reader.colon, bind, Except.bind, h rest]

/-- A member of another key leaves a field as it is. -/
theorem takes_other {k : String} (hkey : k ≠ key) (h : Takes fields.member (k, json) read next)
    (found : Option β) :
    Takes (fields.field key fieldReader fallback).member (k, json) (read, found) (next, found) := by
  intro rest
  have hmember := h rest
  simp only [member, field, if_neg hkey, List.cons_append, Reader.colon, bind, Except.bind]
    at hmember ⊢
  cases hfield : fields.field? k with
  | none =>
    rw [hfield] at hmember
    cases hskip : skip (json.tokens ++ rest) with
    | error fault =>
      rw [hskip] at hmember
      cases hmember
    | ok r =>
      rw [hskip] at hmember
      cases hmember
      rfl
  | some step =>
    rw [hfield] at hmember
    dsimp only [Option.map_some] at hmember ⊢
    cases hstep : step read with
    | error fault =>
      rw [hstep] at hmember
      cases hmember
    | ok reader =>
      rw [hstep] at hmember
      dsimp only at hmember ⊢
      rw [hmember]

/-- Members of other keys leave a field as it is. -/
theorem takesAll_other (hkeys : ∀ member ∈ members, member.1 ≠ key)
    (h : TakesAll fields.member members read last) (found : Option β) :
    TakesAll (fields.field key fieldReader fallback).member members (read, found)
      (last, found) := by
  induction h with
  | nil read => exact .nil _
  | cons hmember _ ih =>
    obtain ⟨hkey, hkeys⟩ := List.forall_mem_cons.1 hkeys
    exact .cons (takes_other hkey hmember found) (ih hkeys)

/-- Members whose keys name no field are skipped. -/
theorem takesAll_of_none
    (h : ∀ member ∈ members, r.field? member.1 = none ∧ Sound member.2) (read : δ) :
    TakesAll r.member members read read := by
  induction members with
  | nil => exact .nil read
  | cons member members ih =>
    obtain ⟨⟨hkey, hsound⟩, hmembers⟩ := List.forall_mem_cons.1 h
    refine .cons (fun rest => ?_) (ih hmembers)
    simp only [Record.member, hkey, List.cons_append, Reader.colon, bind, Except.bind,
      skip_tokens hsound]

end

/-! ## Objects -/

/-- The members of an object, whose keys are among the given ones, make the record. -/
structure Fills (r : Record δ α) (keys : List String) (members : List (String × Json)) (x : α) :
    Prop where
  /-- Members of other keys are not there. -/
  keys : ∀ member ∈ members, member.1 ∈ keys
  /-- The members are read one after another, and the record is complete then. -/
  finishes : ∃ last, TakesAll r.member members r.start last ∧ r.finish last = some x

namespace Fills

variable {r : Record δ α} {fields : Record δ (β → α)} {keys : List String} {key : String}
  {f : β → α} {x : α} {y : β} {fieldReader : Reader β} {fallback : Option β}

/-- A record is read from the object whose members make it. -/
theorem reads (h : Fills r keys members x) : Reads r.reader (.object members) x := by
  obtain ⟨last, hmembers, hfinish⟩ := h.finishes
  obtain ⟨body, htokens, hbody⟩ := object_of_takesAll hmembers
  intro rest
  rw [htokens, List.cons_append]
  unfold Record.reader
  simp only [hbody, bind, Except.bind, hfinish]

/-- No members make the record without fields. -/
theorem of (x : α) : Fills (Record.of x) [] [] x :=
  ⟨List.forall_mem_nil _, (), .nil _, rfl⟩

/-- A key that is not among the given ones is the key of no member. -/
theorem ne (h : Fills r keys members x) (hkey : key ∉ keys) : ∀ member ∈ members, member.1 ≠ key :=
  fun member hmember heq => hkey (heq ▸ h.keys member hmember)

/-- One more member gives one more field. -/
theorem given (h : Fills fields keys members f) (hkey : key ∉ keys)
    (hread : Reads fieldReader json y) :
    Fills (fields.field key fieldReader fallback) (key :: keys) (members ++ [(key, json)])
      (f y) := by
  obtain ⟨last, hmembers, hfinish⟩ := h.finishes
  refine ⟨List.forall_mem_append.2 ⟨fun member hmember => ?_, ?_⟩, (last, some y), ?_, ?_⟩
  · exact List.mem_cons_of_mem _ (h.keys member hmember)
  · exact List.forall_mem_singleton.2 List.mem_cons_self
  · exact (takesAll_other (h.ne hkey) hmembers none).append
      (.cons (takes_field hread last) (.nil _))
  · show (fields.finish last).bind _ = _
    rw [hfinish]
    rfl

/-- One more field that is missing falls back. -/
theorem missing (h : Fills fields keys members f) (hkey : key ∉ keys) :
    Fills (fields.field key fieldReader (some y)) (key :: keys) members (f y) := by
  obtain ⟨last, hmembers, hfinish⟩ := h.finishes
  refine ⟨fun member hmember => List.mem_cons_of_mem _ (h.keys member hmember), (last, none),
    takesAll_other (h.ne hkey) hmembers none, ?_⟩
  show (fields.finish last).bind _ = _
  rw [hfinish]
  rfl

/-- Members of a key that names no field add nothing. -/
theorem skipped {others : List (String × Json)} (h : Fills r keys members x) (key : String)
    (hothers : ∀ member ∈ others, member.1 = key ∧ Sound member.2) (hkey : r.field? key = none) :
    Fills r (key :: keys) (members ++ others) x := by
  obtain ⟨last, hmembers, hfinish⟩ := h.finishes
  refine ⟨List.forall_mem_append.2 ⟨fun member hmember => ?_, fun member hmember => ?_⟩, last,
    hmembers.append (takesAll_of_none (fun member hmember => ?_) last), hfinish⟩
  · exact List.mem_cons_of_mem _ (h.keys member hmember)
  · exact (hothers member hmember).1 ▸ List.mem_cons_self
  · obtain ⟨rfl, hsound⟩ := hothers member hmember
    exact ⟨hkey, hsound⟩

/-- A member that is only written for a value gives one more field, which is not set without it. -/
theorem optionalMember {toJson : γ → Json} {found : Option γ} {value : γ → β}
    {fields : Record δ (Option β → α)} {f : Option β → α}
    (h : Fills fields keys members f) (hkey : key ∉ keys)
    (hsound : ∀ z ∈ found, Sound (toJson z)) (hnull : ∀ z ∈ found, toJson z ≠ null)
    (hread : ∀ z ∈ found, Reads fieldReader (toJson z) (value z)) :
    Fills (fields.field key fieldReader.option (some none)) (key :: keys)
      (members ++ Json.optionalMember key toJson found) (f (found.map value)) := by
  cases found with
  | none =>
    rw [Json.optionalMember, Option.toList_none, List.map_nil, List.append_nil]
    exact h.missing hkey
  | some z => exact h.given hkey (reads_option (hsound z rfl) (hnull z rfl) (hread z rfl))

end Fills

end SchemaDiagram.Json.Record
