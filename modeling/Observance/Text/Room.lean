/-! # Room for nesting

Whoever reads parts that lie in one another can run out of room: there is a depth beyond which no
part is entered any more.
-/

namespace Observance

/-- How much deeper parts may lie in one another; `none` is as deep as they do. -/
abbrev Room := Option Nat

namespace Room

/-- The room inside a part that takes up some of it, if there is room for the part. -/
def enter? (taken : Nat) : Room → Option Room
  | none => some none
  | some levels => if taken ≤ levels then some (some (levels - taken)) else none

@[simp] theorem enter?_none (taken : Nat) : enter? taken none = some none := rfl

end Room

end Observance
