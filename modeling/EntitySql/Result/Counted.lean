/-
  Elements of one page together with the number of all elements that were asked for.
-/

namespace EntitySql

/-- `total` counts every row that meets the condition, on whatever page it is. -/
structure Counted (α : Type) where
  elements : List α
  total : UInt64
  deriving DecidableEq

namespace Counted

def empty {α : Type} : Counted α := ⟨[], 0⟩

instance {α : Type} : Inhabited (Counted α) := ⟨empty⟩

def isEmpty {α : Type} (c : Counted α) : Bool := c.elements.isEmpty && c.total = 0

/-- The same page with every element changed. -/
def map {α β : Type} (f : α → β) (c : Counted α) : Counted β := ⟨c.elements.map f, c.total⟩

end Counted

end EntitySql
