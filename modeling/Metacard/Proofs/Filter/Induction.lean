import Metacard.Filter.Basic
/-!
# Induction over filters

A property of all filters is shown for comparisons, for groups whose members have it, and for
negations; a property of all operands for scalars, and for lists whose elements have it.
-/

set_option autoImplicit false

namespace Metacard

@[elab_as_elim, induction_eliminator]
theorem Operand.induction {motive : Operand → Prop} (text : ∀ value, motive (.text value))
    (number : ∀ value, motive (.number value)) (boolean : ∀ value, motive (.boolean value))
    (list : ∀ elements, (∀ element ∈ elements, motive element) → motive (.list elements))
    (operand : Operand) : motive operand :=
  @Operand.rec motive (fun elements => ∀ element ∈ elements, motive element) text number boolean
    list (fun _ member => nomatch member)
    (fun _ _ first others => List.forall_mem_cons.2 ⟨first, others⟩) operand

@[elab_as_elim, induction_eliminator]
theorem Filter.induction {motive : Filter → Prop} (comparison : ∀ leaf, motive (.comparison leaf))
    (group : ∀ connective members, (∀ member ∈ members, motive member) →
      motive (.group connective members))
    (negation : ∀ inner, motive inner → motive (.negation inner)) (tree : Filter) : motive tree :=
  @Filter.rec motive (fun members => ∀ member ∈ members, motive member) comparison group negation
    (fun _ member => nomatch member)
    (fun _ _ first others => List.forall_mem_cons.2 ⟨first, others⟩) tree

end Metacard
