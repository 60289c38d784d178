import Mathlib
import SchemaDiagram.Schema.Basic

/-!
# Changing the first of a list

Flagging foreign keys changes single columns and keeps everything else, so it keeps the number of
tables (`length_tables_markForeignKeys`) and it does the same to a schema without its defaults
(`withoutDefaults_markForeignKeys`).
-/

namespace SchemaDiagram

variable {α : Type} {p : α → Bool} {f : α → α}

/-- The first element is changed if it is the one. -/
theorem updateFirst_of_pos {x : α} (rest : List α) (h : p x = true) :
    updateFirst p f (x :: rest) = f x :: rest := by
  unfold updateFirst
  rw [if_pos h]

/-- The first element stays if it is not the one. -/
theorem updateFirst_of_neg {x : α} (rest : List α) (h : p x = false) :
    updateFirst p f (x :: rest) = x :: updateFirst p f rest := by
  rw [updateFirst, if_neg (by simp [h])]

/-- What the change of an element leaves as it is stays the same throughout the list. -/
theorem map_updateFirst {β : Type} {g : α → β} (h : ∀ x, g (f x) = g x) (l : List α) :
    (updateFirst p f l).map g = l.map g := by
  induction l with
  | nil => rfl
  | cons x l ih =>
    unfold updateFirst
    split
    · rw [List.map_cons, List.map_cons, h]
    · rw [List.map_cons, List.map_cons, ih]

/-- An element is as it was, or it is the one and is changed. -/
theorem forall₂_updateFirst (l : List α) :
    List.Forall₂ (fun x y => y = x ∨ (p x = true ∧ y = f x)) l (updateFirst p f l) := by
  induction l with
  | nil => exact .nil
  | cons x l ih =>
    cases hx : p x with
    | true =>
      rw [updateFirst_of_pos l hx]
      exact .cons (.inr ⟨hx, rfl⟩) (List.forall₂_same.2 fun y _ => .inl rfl)
    | false =>
      rw [updateFirst_of_neg l hx]
      exact .cons (.inl rfl) ih

/-- What holds of all elements and of a changed one holds of all when one is changed. -/
theorem forall_mem_updateFirst {P : α → Prop} (hf : ∀ x, P x → P (f x)) {l : List α}
    (h : ∀ x ∈ l, P x) : ∀ x ∈ updateFirst p f l, P x := by
  induction l with
  | nil => exact h
  | cons a l ih =>
    obtain ⟨ha, hl⟩ := List.forall_mem_cons.1 h
    unfold updateFirst
    split
    · exact List.forall_mem_cons.2 ⟨hf a ha, hl⟩
    · exact List.forall_mem_cons.2 ⟨ha, ih hl⟩

/-- An element of an image is changed where the element that it comes from is. -/
theorem updateFirst_map {β : Type} {g : α → β} {q : β → Bool} {f' : β → β}
    (hq : ∀ x, q (g x) = p x) (hf : ∀ x, f' (g x) = g (f x)) (l : List α) :
    updateFirst q f' (l.map g) = (updateFirst p f l).map g := by
  induction l with
  | nil => rfl
  | cons x l ih =>
    cases hx : p x with
    | true =>
      rw [List.map_cons, updateFirst_of_pos _ ((hq x).trans hx), updateFirst_of_pos _ hx,
        List.map_cons, hf]
    | false =>
      rw [List.map_cons, updateFirst_of_neg _ ((hq x).trans hx), updateFirst_of_neg _ hx,
        List.map_cons, ih]

/-- Where the change is made, what is left out of the list stays left out. -/
theorem updateFirst_filter {q : α → Bool} (hf : ∀ x, q (f x) = q x)
    (hp : ∀ x, p x = true → q x = true) (l : List α) :
    updateFirst p f (l.filter q) = (updateFirst p f l).filter q := by
  induction l with
  | nil => rfl
  | cons x l ih =>
    cases hx : p x with
    | true =>
      have hkept := hp x hx
      rw [List.filter_cons_of_pos hkept, updateFirst_of_pos _ hx, updateFirst_of_pos _ hx,
        List.filter_cons_of_pos ((hf x).trans hkept)]
    | false =>
      rw [updateFirst_of_neg _ hx]
      cases hq : q x with
      | true => rw [List.filter_cons_of_pos hq, List.filter_cons_of_pos hq,
          updateFirst_of_neg _ hx, ih]
      | false =>
        have hnot : ¬q x = true := by simp [hq]
        rw [List.filter_cons_of_neg hnot, List.filter_cons_of_neg hnot, ih]

/-- An element is changed if it stands where the first one that is meant stands. -/
theorem getElem?_updateFirst (l : List α) (i : Nat) :
    (updateFirst p f l)[i]? = l[i]?.map fun x => if l.findIdx? p = some i then f x else x := by
  induction l generalizing i with
  | nil => rfl
  | cons x l ih =>
    cases hx : p x with
    | true =>
      rw [updateFirst_of_pos l hx, List.findIdx?_cons, hx]
      cases i <;> simp
    | false =>
      rw [updateFirst_of_neg l hx, List.findIdx?_cons, hx]
      cases i with
      | zero => simp
      | succ i =>
        rw [List.getElem?_cons_succ, List.getElem?_cons_succ, ih]
        simp

/-- An element stands where the first one that is meant stands, if it is meant and no earlier one
is. -/
theorem findIdx?_eq_some_iff_of_getElem? {l : List α} {i : Nat} {x : α} (h : l[i]? = some x) :
    l.findIdx? p = some i ↔ p x = true ∧ ∀ y ∈ l.take i, p y = false := by
  obtain ⟨hi, rfl⟩ := List.getElem?_eq_some_iff.1 h
  rw [List.findIdx?_eq_some_iff_getElem]
  constructor
  · rintro ⟨_, hx, hearlier⟩
    refine ⟨hx, fun y hy => ?_⟩
    obtain ⟨j, hj, rfl⟩ := List.mem_take_iff_getElem.1 hy
    simpa using hearlier j (by omega)
  · rintro ⟨hx, hearlier⟩
    refine ⟨hi, hx, fun j hj => ?_⟩
    rw [hearlier _ (List.mem_take_iff_getElem.2 ⟨j, by omega, rfl⟩)]
    decide

/-- Changing an element a second time changes nothing, if it was the change that was meant. -/
theorem updateFirst_updateFirst (hp : ∀ x, p (f x) = p x) (hf : ∀ x, f (f x) = f x) (l : List α) :
    updateFirst p f (updateFirst p f l) = updateFirst p f l := by
  induction l with
  | nil => rfl
  | cons x l ih =>
    cases hx : p x with
    | true => rw [updateFirst_of_pos l hx, updateFirst_of_pos l ((hp x).trans hx), hf]
    | false => rw [updateFirst_of_neg l hx, updateFirst_of_neg _ hx, ih]

/-- It does not matter which of two changes is made first if neither has an effect on where the
other one is made, or on what it does. -/
theorem updateFirst_comm {q : α → Bool} {g : α → α} (hp : ∀ x, p (g x) = p x)
    (hq : ∀ x, q (f x) = q x) (hfg : ∀ x, f (g x) = g (f x)) (l : List α) :
    updateFirst p f (updateFirst q g l) = updateFirst q g (updateFirst p f l) := by
  induction l with
  | nil => rfl
  | cons x l ih =>
    cases hpx : p x with
    | true =>
      have hpg : p (g x) = true := (hp x).trans hpx
      cases hqx : q x with
      | true =>
        have hqf : q (f x) = true := (hq x).trans hqx
        rw [updateFirst_of_pos l hqx, updateFirst_of_pos l hpg, updateFirst_of_pos l hpx,
          updateFirst_of_pos l hqf, hfg]
      | false =>
        have hqf : q (f x) = false := (hq x).trans hqx
        rw [updateFirst_of_neg l hqx, updateFirst_of_pos _ hpx, updateFirst_of_pos l hpx,
          updateFirst_of_neg l hqf]
    | false =>
      have hpg : p (g x) = false := (hp x).trans hpx
      cases hqx : q x with
      | true =>
        rw [updateFirst_of_pos l hqx, updateFirst_of_neg l hpg, updateFirst_of_neg l hpx,
          updateFirst_of_pos _ hqx]
      | false =>
        rw [updateFirst_of_neg l hqx, updateFirst_of_neg _ hpx, updateFirst_of_neg l hpx,
          updateFirst_of_neg _ hqx, ih]

/-- The first element that is the one is found changed where it was changed. -/
theorem find?_updateFirst_self (hf : ∀ x, p (f x) = p x) (l : List α) :
    (updateFirst p f l).find? p = (l.find? p).map f := by
  induction l with
  | nil => rfl
  | cons x l ih =>
    cases hx : p x with
    | true =>
      rw [updateFirst_of_pos _ hx, List.find?_cons_of_pos ((hf x).trans hx),
        List.find?_cons_of_pos hx, Option.map_some]
    | false =>
      have hnot : ¬p x = true := by simp [hx]
      rw [updateFirst_of_neg _ hx, List.find?_cons_of_neg hnot, List.find?_cons_of_neg hnot, ih]

/-- An element that is not the one is found as it was. -/
theorem find?_updateFirst_of_ne {q : α → Bool} (hf : ∀ x, q (f x) = q x)
    (hp : ∀ x, p x = true → q x = false) (l : List α) :
    (updateFirst p f l).find? q = l.find? q := by
  induction l with
  | nil => rfl
  | cons x l ih =>
    cases hx : p x with
    | true =>
      have hnot : ¬q x = true := by simp [hp x hx]
      have hchanged : ¬q (f x) = true := by rwa [hf]
      rw [updateFirst_of_pos _ hx, List.find?_cons_of_neg hnot, List.find?_cons_of_neg hchanged]
    | false => rw [updateFirst_of_neg _ hx, List.find?_cons, List.find?_cons, ih]

namespace Schema

/-- What does not depend on one flag of a foreign key is not changed when all of them are set. -/
theorem map_tables_markForeignKeys {β : Type} {g : Table → β}
    (hg : ∀ t column, g (t.markForeignKey column) = g t) (s : Schema) :
    s.markForeignKeys.tables.map g = s.tables.map g := by
  have hfold (rs : List Relationship) (tables : List Table) :
      (rs.foldl (fun tables r => markForeignKey tables r.endpoints.source) tables).map g =
        tables.map g := by
    induction rs generalizing tables with
    | nil => rfl
    | cons r rs ih =>
      rw [List.foldl_cons, ih]
      exact map_updateFirst (fun t => hg t _) tables
  exact hfold s.relationships s.tables

/-- Flagging foreign keys keeps the number of tables. -/
theorem length_tables_markForeignKeys (s : Schema) :
    s.markForeignKeys.tables.length = s.tables.length := by
  have hmap := s.map_tables_markForeignKeys (g := fun _ => ()) fun _ _ => rfl
  simpa using congrArg List.length hmap

end Schema

/-! ## Schemas without defaults -/

/-- The column without its default. -/
def Column.withoutDefault (c : Column) : Column :=
  { c with defaultValue := none }

/-- The table without the defaults of its columns. -/
def Table.withoutDefaults (t : Table) : Table :=
  { t with columns := t.columns.map Column.withoutDefault }

/-- The schema without the defaults of its columns. -/
def Schema.withoutDefaults (s : Schema) : Schema :=
  { s with tables := s.tables.map Table.withoutDefaults }

/-- Foreign keys are flagged whether or not there are defaults. -/
theorem Schema.withoutDefaults_markForeignKeys (s : Schema) :
    s.markForeignKeys.withoutDefaults = s.withoutDefaults.markForeignKeys := by
  have htable (t : Table) (column : String) :
      t.withoutDefaults.markForeignKey column = (t.markForeignKey column).withoutDefaults := by
    refine congrArg (Table.mk t.name) ?_
    refine updateFirst_map (g := Column.withoutDefault) ?_ ?_ t.columns <;> exact fun _ => rfl
  have hfold (rs : List Relationship) (tables : List Table) :
      (rs.foldl (fun tables r => markForeignKey tables r.endpoints.source) tables).map
          Table.withoutDefaults =
        rs.foldl (fun tables r => markForeignKey tables r.endpoints.source)
          (tables.map Table.withoutDefaults) := by
    induction rs generalizing tables with
    | nil => rfl
    | cons r rs ih =>
      rw [List.foldl_cons, List.foldl_cons, ih]
      congr 1
      refine (updateFirst_map (g := Table.withoutDefaults) ?_ ?_ tables).symm
      · exact fun _ => rfl
      · exact fun t => htable t _
  exact congrArg (fun tables => (⟨tables, s.relationships⟩ : Schema)) (hfold _ _)

end SchemaDiagram
