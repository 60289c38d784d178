import Mathlib
import SchemaDiagram.Diagram.Layout

/-!
# Positions of names

A layout lists its names in alphabetical order (`Layout.Sorted`), so that it is built again from its
own entries (`Layout.foldl_insert_entries`). Giving a position to a name and taking names out leave
the positions of the others as they are (`Layout.find?_insert`, `Layout.find?_remove`).
-/

namespace SchemaDiagram.Layout

/-- A name that is taken out has no position, and any other one has the position that it had. -/
theorem find?_remove (l : Layout) (drop : String → Bool) (name : String) :
    (l.remove drop).find? name = if drop name then none else l.find? name := by
  have hentries (entries : List (String × Position)) :
      (entries.filter fun entry => !drop entry.1).lookup name =
        if drop name then none else entries.lookup name := by
    induction entries with
    | nil => simp
    | cons entry entries ih =>
      obtain ⟨n, p⟩ := entry
      by_cases hname : name = n
      · subst hname
        cases hdrop : drop name with
        | true =>
          rw [hdrop] at ih
          rw [List.filter_cons_of_neg (by simp [hdrop]), ih, if_pos rfl, if_pos rfl]
        | false => simp [hdrop]
      · have hne : (name == n) = false := beq_eq_false_iff_ne.2 hname
        have hrest : ((n, p) :: entries).lookup name = entries.lookup name := by
          rw [List.lookup_cons, hne]
        rw [hrest, ← ih]
        cases hdrop : drop n with
        | true => rw [List.filter_cons_of_neg (by simp [hdrop])]
        | false => rw [List.filter_cons_of_pos (by simp [hdrop]), List.lookup_cons, hne]
  exact hentries l.entries

/-- Nothing changes if no name is taken out. -/
theorem remove_of_forall {l : Layout} {drop : String → Bool} (h : ∀ name, drop name = false) :
    l.remove drop = l := by
  unfold remove
  rw [List.filter_eq_self.2]
  rintro ⟨name, p⟩ _
  exact congrArg not (h name)

/-! ## Giving positions -/

/-- The names are in alphabetical order, each only once. -/
def Sorted (l : Layout) : Prop :=
  (l.entries.map Prod.fst).Pairwise (· < ·)

/-- A name has the position that it is given, and any other one the position that it had. -/
theorem find?_insert (l : Layout) (name : String) (p : Position) (other : String) :
    (l.insert name p).find? other = if other = name then some p else l.find? other := by
  have hself (rest : List (String × Position)) :
      ((name, p) :: rest).lookup other = if other = name then some p else rest.lookup other := by
    rw [List.lookup_cons]
    by_cases hother : other = name
    · rw [beq_iff_eq.2 hother, if_pos hother]
    · rw [beq_eq_false_iff_ne.2 hother, if_neg hother]
  have hentries (entries : List (String × Position)) :
      (insertEntry name p entries).lookup other =
        if other = name then some p else entries.lookup other := by
    induction entries with
    | nil => exact hself []
    | cons entry entries ih =>
      obtain ⟨n, q⟩ := entry
      rw [insertEntry]
      by_cases hlt : name < n
      · rw [if_pos hlt]
        exact hself _
      · rw [if_neg hlt]
        by_cases hname : name = n
        · rw [if_pos hname, hself, List.lookup_cons]
          split_ifs with hother
          · rfl
          · rw [beq_eq_false_iff_ne.2 (hname ▸ hother)]
        · rw [if_neg hname, List.lookup_cons, List.lookup_cons]
          by_cases hother : other = n
          · have hne : other ≠ name := fun heq => hname (heq.symm.trans hother)
            rw [beq_iff_eq.2 hother, if_neg hne]
          · rw [beq_eq_false_iff_ne.2 hother]
            exact ih
  exact hentries l.entries

/-- The entries of a layout with one more are those it had and the new one. -/
theorem mem_insertEntry {name : String} {p : Position} {entries : List (String × Position)}
    {entry : String × Position} (h : entry ∈ insertEntry name p entries) :
    entry = (name, p) ∨ entry ∈ entries := by
  induction entries with
  | nil => exact .inl (List.mem_singleton.1 h)
  | cons first rest ih =>
    obtain ⟨n, q⟩ := first
    unfold insertEntry at h
    split_ifs at h
    · exact List.mem_cons.1 h
    · exact (List.mem_cons.1 h).imp_right (List.mem_cons_of_mem _)
    · rcases List.mem_cons.1 h with rfl | h
      · exact .inr List.mem_cons_self
      · exact (ih h).imp_right (List.mem_cons_of_mem _)

/-- Names stay in order when one is given a position. -/
theorem Sorted.insert {l : Layout} (h : l.Sorted) (name : String) (p : Position) :
    (l.insert name p).Sorted := by
  have hentries (entries : List (String × Position))
      (h : (entries.map Prod.fst).Pairwise (· < ·)) :
      ((insertEntry name p entries).map Prod.fst).Pairwise (· < ·) := by
    induction entries with
    | nil => exact List.pairwise_singleton _ _
    | cons entry entries ih =>
      obtain ⟨n, q⟩ := entry
      obtain ⟨hn, hrest⟩ := List.pairwise_cons.1 h
      unfold insertEntry
      split_ifs with hlt hname
      · refine List.pairwise_cons.2 ⟨fun other hother => ?_, h⟩
        rcases List.mem_cons.1 hother with rfl | hmem
        · exact hlt
        · exact hlt.trans (hn other hmem)
      · exact hname ▸ h
      · refine List.pairwise_cons.2 ⟨fun other hother => ?_, ih hrest⟩
        obtain ⟨entry, hentry, rfl⟩ := List.mem_map.1 hother
        rcases mem_insertEntry hentry with rfl | hmem
        · exact lt_of_le_of_ne (not_lt.1 hlt) (Ne.symm hname)
        · exact hn _ (List.mem_map_of_mem hmem)
  exact hentries l.entries h

/-- A name that comes behind all others is put at the end. -/
theorem insertEntry_of_forall_lt {entries : List (String × Position)} {name : String}
    (h : ∀ entry ∈ entries, entry.1 < name) (p : Position) :
    insertEntry name p entries = entries ++ [(name, p)] := by
  induction entries with
  | nil => rfl
  | cons entry entries ih =>
    obtain ⟨n, q⟩ := entry
    obtain ⟨hn, hentries⟩ := List.forall_mem_cons.1 h
    rw [insertEntry, if_neg hn.not_gt, if_neg hn.ne', ih hentries, List.cons_append]

/-- A sorted layout is built again from its entries. -/
theorem foldl_insert_entries {l : Layout} (h : l.Sorted) :
    l.entries.foldl (fun l entry => l.insert entry.1 entry.2) empty = l := by
  have hfold (entries : List (String × Position))
      (h : (entries.map Prod.fst).Pairwise (· < ·)) :
      entries.foldl (fun l entry => l.insert entry.1 entry.2) empty = ⟨entries⟩ := by
    -- The last name comes behind all others.
    induction entries using List.reverseRecOn with
    | nil => rfl
    | append_singleton entries entry ih =>
      rw [List.map_append, List.pairwise_append] at h
      obtain ⟨hentries, -, hlast⟩ := h
      rw [List.foldl_append, ih hentries]
      refine congrArg Layout.mk (insertEntry_of_forall_lt (fun other hother => ?_) entry.2)
      exact hlast other.1 (List.mem_map_of_mem hother) entry.1 List.mem_cons_self
  exact hfold l.entries h

/-- A layout that is built from entries is sorted. -/
theorem sorted_foldl_insert {α : Type} (name : α → String) (position : α → Position) (l : List α) :
    (l.foldl (fun layout x => layout.insert (name x) (position x)) empty).Sorted := by
  induction l using List.reverseRecOn with
  | nil => exact List.Pairwise.nil
  | append_singleton l x ih =>
    rw [List.foldl_append]
    exact ih.insert (name x) (position x)

/-- The names of a sorted layout are different. -/
theorem Sorted.nodup {l : Layout} (h : l.Sorted) : (l.entries.map Prod.fst).Nodup :=
  h.imp fun hlt => hlt.ne

end SchemaDiagram.Layout
