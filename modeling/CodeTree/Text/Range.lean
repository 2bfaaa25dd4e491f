/-! Sets of characters given by ranges of code points. -/
namespace CodeTree.Text

/-- Membership of a character in a union of closed ranges of code points. -/
def inRanges (ranges : List (Nat × Nat)) (c : Char) : Bool :=
  ranges.any fun r => r.1 ≤ c.toNat && c.toNat ≤ r.2

end CodeTree.Text
