import Mathlib
import SchemaDiagram.Diagram.Canvas
import SchemaDiagram.Proofs.Schema.Basic

/-!
# The first element of each key

`keepFirst` keeps the order of a list (`sublist_keepFirst`) and keeps one element of each key
(`nodup_map_keepFirst`). It keeps the `firsts`, which are the elements of a list that no other one
with the same key comes before (`keepFirst_eq_firsts`), as both keep an element at the end of a list
if its key is new.
-/

namespace SchemaDiagram

variable {α β : Type} [BEq β] {key : α → β}

/-- The kept elements are in the order of the list. -/
theorem sublist_keepFirst (l : List α) : (keepFirst key l).Sublist l := by
  induction l with
  | nil => exact List.Sublist.refl []
  | cons x l ih => exact (List.filter_sublist.trans ih).cons_cons x

/-- Keeping the first of each key of an image is keeping the first of each key of its elements. -/
theorem keepFirst_map {γ : Type} (f : γ → α) (l : List γ) :
    keepFirst key (l.map f) = (keepFirst (fun x => key (f x)) l).map f := by
  induction l with
  | nil => rfl
  | cons x l ih =>
    rw [List.map_cons, keepFirst, ih, keepFirst, List.map_cons, List.filter_map]
    rfl

variable [LawfulBEq β]

/-- No two kept elements have the same key. -/
theorem nodup_map_keepFirst (l : List α) : ((keepFirst key l).map key).Nodup := by
  induction l with
  | nil => exact List.nodup_nil
  | cons x l ih =>
    unfold keepFirst
    rw [List.map_cons, List.nodup_cons]
    constructor
    · intro hmem
      obtain ⟨y, hy, heq⟩ := List.mem_map.1 hmem
      have hne := (List.mem_filter.1 hy).2
      rw [heq, bne_self_eq_false] at hne
      cases hne
    · exact ih.sublist (List.filter_sublist.map key)

/-- Every key of the list is the key of a kept element. -/
theorem exists_mem_keepFirst {l : List α} {x : α} (h : x ∈ l) :
    ∃ y ∈ keepFirst key l, key y = key x := by
  induction l with
  | nil => cases h
  | cons a l ih =>
    unfold keepFirst
    by_cases hkey : key a = key x
    · exact ⟨a, List.mem_cons_self, hkey⟩
    · have hne : x ≠ a := fun heq => hkey (heq ▸ rfl)
      obtain ⟨y, hy, hyx⟩ := ih (List.mem_of_ne_of_mem hne h)
      have hya : (key y != key a) = true := bne_iff_ne.2 fun heq => hkey (heq.symm.trans hyx)
      exact ⟨y, List.mem_cons_of_mem _ (List.mem_filter.2 ⟨hy, hya⟩), hyx⟩

/-- A change of the first element of a key, after which it has that key still, changes it among the
kept elements. -/
theorem keepFirst_updateFirst {f : α → α} (hf : ∀ x, key (f x) = key x) (k : β) (l : List α) :
    keepFirst key (updateFirst (key · == k) f l) = updateFirst (key · == k) f (keepFirst key l) := by
  induction l with
  | nil => rfl
  | cons a l ih =>
    cases ha : key a == k with
    | true =>
      have hfirst (l : List α) : updateFirst (key · == k) f (a :: l) = f a :: l :=
        updateFirst_of_pos l ha
      rw [hfirst]
      unfold keepFirst
      rw [hfirst, hf]
    | false =>
      have hlater (l : List α) :
          updateFirst (key · == k) f (a :: l) = a :: updateFirst (key · == k) f l :=
        updateFirst_of_neg l ha
      have hother : ∀ x, (key x == k) = true → (key x != key a) = true := by
        intro x hx
        rw [bne_iff_ne]
        intro heq
        rw [← heq, hx] at ha
        cases ha
      have hkeeps (x : α) : (key (f x) != key a) = (key x != key a) := by rw [hf]
      rw [hlater]
      unfold keepFirst
      rw [hlater, ih, updateFirst_filter hkeeps hother]

/-- An element at the end of a list is kept if no other one has its key. -/
theorem keepFirst_concat (l : List α) (x : α) :
    keepFirst key (l ++ [x]) =
      if key x ∈ l.map key then keepFirst key l else keepFirst key l ++ [x] := by
  induction l with
  | nil => rfl
  | cons y l ih =>
    have hmem : key x ∈ (y :: l).map key ↔ key x = key y ∨ key x ∈ l.map key := by
      rw [List.map_cons, List.mem_cons]
    rw [List.cons_append, keepFirst, ih, keepFirst]
    -- The first element of the list takes away the last one if both have the same key.
    by_cases hy : key x = key y
    · rw [if_pos (hmem.2 (.inl hy))]
      split
      · rfl
      · have hkey : (key x != key y) = false := bne_eq_false_iff_eq.2 hy
        rw [List.filter_append, List.filter_singleton, hkey, cond_false, List.append_nil]
    · by_cases hl : key x ∈ l.map key
      · rw [if_pos hl, if_pos (hmem.2 (.inr hl))]
      · have hnot : key x ∉ (y :: l).map key := fun h => (hmem.1 h).elim hy hl
        have hkey : (key x != key y) = true := bne_iff_ne.2 hy
        rw [if_neg hl, if_neg hnot, List.filter_append, List.filter_singleton, hkey, cond_true,
          List.cons_append]

/-- The elements of a list before which no element has the same key. -/
def firsts (key : α → β) (l : List α) : List α :=
  (l.zipIdx.filter fun entry => !((l.take entry.2).map key).contains (key entry.1)).map Prod.fst

/-- An element at the end of a list is a first one if no other one has its key. -/
theorem firsts_concat (l : List α) (x : α) :
    firsts key (l ++ [x]) = if key x ∈ l.map key then firsts key l else firsts key l ++ [x] := by
  -- The last element is not among those in front of another one.
  have hfront :
      (l.zipIdx.filter fun entry =>
        !(((l ++ [x]).take entry.2).map key).contains (key entry.1)) =
      l.zipIdx.filter fun entry => !((l.take entry.2).map key).contains (key entry.1) := by
    refine List.filter_congr fun entry hentry => ?_
    have hlt : entry.2 < l.length := by simpa using List.snd_lt_of_mem_zipIdx hentry
    rw [List.take_append_of_le_length (Nat.le_of_lt hlt)]
  have hlast : [x].zipIdx (0 + l.length) = [(x, l.length)] := by
    rw [List.zipIdx_singleton, Nat.zero_add]
  unfold firsts
  rw [List.zipIdx_append, List.filter_append, hfront, hlast, List.filter_singleton, List.take_left,
    List.map_append]
  by_cases hmem : key x ∈ l.map key
  · have hcontains : (l.map key).contains (key x) = true := List.contains_iff_mem.2 hmem
    rw [if_pos hmem, hcontains]
    exact List.append_nil _
  · have hcontains : (l.map key).contains (key x) = false := by
      rw [← Bool.not_eq_true, List.contains_iff_mem]
      exact hmem
    rw [if_neg hmem, hcontains]
    rfl

/-- The elements that are kept are the first ones. -/
theorem keepFirst_eq_firsts (l : List α) : keepFirst key l = firsts key l := by
  induction l using List.reverseRecOn with
  | nil => rfl
  | append_singleton l x ih => rw [keepFirst_concat, firsts_concat, ih]

/-- The first elements are in the order of the list. -/
theorem sublist_firsts (l : List α) : (firsts key l).Sublist l := by
  rw [← keepFirst_eq_firsts]
  exact sublist_keepFirst l

end SchemaDiagram
