import Mathlib
import SchemaDiagram.Diagram.Route

/-!
# The names of handles

The name of a handle says which column it belongs to and of which kind it is (`parse?_id`), although
one suffix may be the end of another and a column may itself be named like a handle; other names are
not read (`parse?_inverts_id`). The handles that an edge is attached to `Fit` its endpoints: it goes
out at the one column and comes in at the other, on whichever sides (`fit_resolve`, `fit_standard`).
-/

namespace SchemaDiagram

namespace Handle

/-- The name of a handle ends in a hyphen and its suffix. -/
theorem toList_id (h : Handle) (column : String) :
    (h.id column).toList = column.toList ++ '-' :: h.suffix.toList := by
  unfold id
  rw [String.toList_append, String.toList_append, List.append_assoc]
  rfl

/-- The column of a handle is found by its suffix. -/
theorem column?_id {column : String} (hne : column ≠ "") (h : Handle) :
    h.column? (h.id column) = some column := by
  have hlist : column.toList ≠ [] := by
    intro hnil
    exact hne (String.toList_inj.1 hnil)
  have hsuffix : List.isSuffixOf? ('-' :: h.suffix.toList) (h.id column).toList =
      some column.toList := by
    rw [List.isSuffixOf?_eq_some_iff_append_eq, toList_id]
  -- A name without characters is not read as that of a column.
  obtain ⟨c, s, hcons⟩ := List.exists_cons_of_ne_nil hlist
  unfold column?
  rw [hsuffix, hcons]
  simp only
  rw [← hcons, String.ofList_toList]

/-- The suffix of another kind that is looked for earlier is not found. -/
theorem column?_id_of_ne (column : String) {h kind : Handle}
    (hne : List.isPrefixOf? ('-' :: kind.suffix.toList).reverse
      (('-' :: h.suffix.toList).reverse ++ column.toList.reverse) = none) :
    kind.column? (h.id column) = none := by
  unfold column?
  rw [toList_id, List.isSuffixOf?, List.reverse_append, hne]
  rfl

/-- The name of a handle is read as its column and its kind. -/
theorem parse?_id {column : String} (hne : column ≠ "") (h : Handle) :
    parse? (h.id column) = some (column, h) := by
  have hself := column?_id hne h
  unfold parse?
  -- The kinds are tried in this order, and none that comes earlier has a suffix that fits.
  cases h with
  | leftSource => simp [List.findSome?, hself]
  | rightTarget =>
    have hleft : leftSource.column? (rightTarget.id column) = none := column?_id_of_ne column rfl
    simp [List.findSome?, hself, hleft]
  | left =>
    have hsource : leftSource.column? (left.id column) = none := column?_id_of_ne column rfl
    have htarget : rightTarget.column? (left.id column) = none := column?_id_of_ne column rfl
    simp [List.findSome?, hself, hsource, htarget]
  | right =>
    have hsource : leftSource.column? (right.id column) = none := column?_id_of_ne column rfl
    have htarget : rightTarget.column? (right.id column) = none := column?_id_of_ne column rfl
    have hleft : left.column? (right.id column) = none := column?_id_of_ne column rfl
    simp [List.findSome?, hself, hsource, htarget, hleft]

/-- A column that is found by the suffix of a kind has a name, and its handle of this kind has the
given name. -/
theorem id_of_column? {id column : String} {h : Handle} (hcolumn : h.column? id = some column) :
    column ≠ "" ∧ h.id column = id := by
  unfold column? at hcolumn
  split at hcolumn
  · cases hcolumn
  · cases hcolumn
  · next s hne hsuffix =>
    obtain rfl := Option.some.inj hcolumn
    constructor
    · intro hempty
      exact hne (String.ofList_eq_empty_iff.1 hempty)
    · rw [← String.toList_inj, toList_id, String.toList_ofList]
      exact List.isSuffixOf?_eq_some_iff_append_eq.1 hsuffix

/-- A column and a kind that are read from a name are those of the handle of that name. -/
theorem id_of_parse? {id column : String} {h : Handle} (hparse : parse? id = some (column, h)) :
    column ≠ "" ∧ h.id column = id := by
  obtain ⟨kind, -, hkind⟩ := List.exists_of_findSome?_eq_some hparse
  obtain ⟨name, hname, heq⟩ := Option.map_eq_some_iff.1 hkind
  obtain ⟨rfl, rfl⟩ := Prod.mk.inj heq
  exact id_of_column? hname

/-- A name is read as a column and a kind exactly if it is the name of that handle, and it is not
read at all exactly if it is the name of no handle. So no name belongs to two handles. -/
theorem parse?_inverts_id (id : String) :
    (∀ column h, parse? id = some (column, h) ↔ column ≠ "" ∧ h.id column = id) ∧
      (parse? id = none ↔ ¬ ∃ column h, column ≠ "" ∧ Handle.id h column = id) := by
  have hsome (column : String) (h : Handle) :
      parse? id = some (column, h) ↔ column ≠ "" ∧ h.id column = id := by
    constructor
    · exact id_of_parse?
    · rintro ⟨hne, rfl⟩
      exact parse?_id hne h
  refine ⟨hsome, ?_⟩
  simp only [← hsome, Option.eq_none_iff_forall_not_mem, Option.mem_def, not_exists, Prod.forall]

/-- The suffix at the end decides, also if the column is named like a handle. -/
example : parse? "a-left-source-left" = some ("a-left-source", left) ∧
    parse? "-right-right-target" = some ("-right", rightTarget) ∧ parse? "-left-source" = none := by
  decide

end Handle

namespace Handles

/-- The handles are those of the two columns: one goes out from the first, and one comes in at the
second. -/
structure Fit (h : Handles) (e : Endpoints) : Prop where
  /-- The edge goes out from its first column. -/
  source : ∃ kind, Handle.parse? h.source = some (e.source.column, kind) ∧ kind.isSource = true
  /-- The edge comes in at its second column. -/
  target : ∃ kind, Handle.parse? h.target = some (e.target.column, kind) ∧ kind.isSource = false

variable {e : Endpoints}

/-- Handles that fit belong to columns that have names. -/
theorem Fit.columns_ne {h : Handles} (hfit : h.Fit e) :
    e.source.column ≠ "" ∧ e.target.column ≠ "" := by
  obtain ⟨sourceKind, hsource, -⟩ := hfit.source
  obtain ⟨targetKind, htarget, -⟩ := hfit.target
  exact ⟨(Handle.id_of_parse? hsource).1, (Handle.id_of_parse? htarget).1⟩

/-- Handles of the right kinds fit. -/
theorem fit_ofSides {sides : Handle × Handle} (hsource : e.source.column ≠ "")
    (htarget : e.target.column ≠ "") (hgoes : sides.1.isSource = true)
    (hcomes : sides.2.isSource = false) : (ofSides e sides).Fit e := by
  constructor
  · exact ⟨sides.1, Handle.parse?_id hsource sides.1, hgoes⟩
  · exact ⟨sides.2, Handle.parse?_id htarget sides.2, hcomes⟩

/-- However two boxes stand, the edge between them goes out from the first and comes in at the
second. -/
theorem isSource_sides (source target : Box) (nodeWidth : Float) :
    (source.sides target nodeWidth).1.isSource = true ∧
      (source.sides target nodeWidth).2.isSource = false := by
  unfold Box.sides
  simp only
  split_ifs
  · exact ⟨rfl, rfl⟩
  · exact ⟨rfl, rfl⟩
  · exact ⟨rfl, rfl⟩
  · exact ⟨rfl, rfl⟩

/-- The handles for an edge between two boxes fit. -/
theorem fit_resolve (source target : Box) (nodeWidth : Float) (hsource : e.source.column ≠ "")
    (htarget : e.target.column ≠ "") : (resolve source target nodeWidth e).Fit e := by
  obtain ⟨hgoes, hcomes⟩ := isSource_sides source target nodeWidth
  exact fit_ofSides hsource htarget hgoes hcomes

/-- The handles for an edge between nodes that have no boxes fit. -/
theorem fit_standard (hsource : e.source.column ≠ "") (htarget : e.target.column ≠ "") :
    (standard e).Fit e :=
  fit_ofSides hsource htarget rfl rfl

end Handles

end SchemaDiagram
