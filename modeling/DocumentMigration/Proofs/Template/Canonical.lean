import DocumentMigration.Proofs.Change.Canonical
import DocumentMigration.Proofs.Template.Evaluate

/-! A template whose values have their members in order makes documents that have theirs in order.
-/
namespace DocumentMigration

open Json

/-- Every value that an attribute writes to an ordered document is ordered itself. -/
def AttributeTemplate.WritesCanonical (t : AttributeTemplate) : Prop :=
  ∀ document v, (Value.object document).Canonical → t.Resolves document v → v.Canonical

theorem AttributeTemplate.Evaluated.writesCanonical {t : AttributeTemplate} {document : Object}
    {c : AttributeChange} (evaluated : t.Evaluated document c) (writes : t.WritesCanonical)
    (canonical : (Value.object document).Canonical) : Change.WritesCanonical c := by
  intro kind
  obtain ⟨v, value, resolves⟩ := evaluated.newValue kind
  rw [value]
  exact writes document v canonical resolves

namespace CompiledTemplate

def WritesCanonical (t : CompiledTemplate) : Prop := ∀ a ∈ t.attributes, a.WritesCanonical

variable {t : CompiledTemplate} {document : Object} {changes : List AttributeChange}

theorem writesCanonical_of_evaluate (writes : t.WritesCanonical)
    (canonical : (Value.object document).Canonical)
    (evaluated : t.evaluate document = .ok changes) :
    ∀ c ∈ changes, Change.WritesCanonical c := by
  intro c member
  obtain ⟨a, inTemplate, made⟩ := Except.exists_of_mem_mapM evaluated member
  have evaluated := AttributeTemplate.evaluated_of_evaluate made
  exact evaluated.writesCanonical (writes a inTemplate) canonical

theorem canonical_transform {after : Object} (writes : t.WritesCanonical)
    (canonical : (Value.object document).Canonical)
    (made : t.transform document = .ok (changes, after)) : (Value.object after).Canonical := by
  obtain ⟨evaluated, applied⟩ := transform_eq_ok_iff.mp made
  exact Change.canonical_applied (writesCanonical_of_evaluate writes canonical evaluated) canonical
    applied

theorem canonical_newDocument {data : Object} (writes : t.WritesCanonical)
    (made : t.newDocument = .ok data) : (Value.object data).Canonical := by
  obtain ⟨changes, evaluated, built⟩ := newDocument_eq_ok_iff.mp made
  have empty : (Value.object []).Canonical := ⟨.nil, trivial⟩
  have each := writesCanonical_of_evaluate writes empty evaluated
  exact Change.canonical_applied (fun c member => each c (List.mem_filter.mp member).1) empty built

end CompiledTemplate

end DocumentMigration
