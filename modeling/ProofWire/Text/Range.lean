/-! Code ranges: sets of characters given as closed intervals of their codes. -/

namespace ProofWire.Text

/-- A code belongs to a set of closed ranges when one of them holds it. -/
def inRanges (ranges : List (Nat × Nat)) (code : Nat) : Bool :=
  ranges.any fun range => range.1 ≤ code && code ≤ range.2

end ProofWire.Text
