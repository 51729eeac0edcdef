/-
# Induction over values

Values are nested in lists of items and in lists of entries. What holds of the values without
parts, of a list if it holds of its items, and of an object if it holds of the values of its
entries, holds of all values.
-/

import Stencil.Value.Basic

namespace Stencil.Value

@[elab_as_elim]
theorem induction {motive : Value → Prop} (null : motive .null) (bool : ∀ b, motive (.bool b))
    (int : ∀ i, motive (.int i)) (float : ∀ x, motive (.float x)) (text : ∀ s, motive (.text s))
    (list : ∀ items, (∀ v ∈ items, motive v) → motive (.list items))
    (object : ∀ entries, (∀ entry ∈ entries, motive entry.2) → motive (.object entries))
    (v : Value) : motive v :=
  @Value.rec motive (fun items => ∀ v ∈ items, motive v)
    (fun entries => ∀ entry ∈ entries, motive entry.2) (fun entry => motive entry.2)
    null bool int float text list object
    (List.forall_mem_nil _) (fun _ _ first rest => List.forall_mem_cons.mpr ⟨first, rest⟩)
    (List.forall_mem_nil _) (fun _ _ first rest => List.forall_mem_cons.mpr ⟨first, rest⟩)
    (fun _ _ holds => holds) v

end Stencil.Value
