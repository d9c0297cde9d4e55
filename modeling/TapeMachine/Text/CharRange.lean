/-
Sets of characters given by ranges of code points.

* **`inRanges`** — membership in a union of closed ranges.
-/

namespace TapeMachine.Text

/-- Whether a code point lies in one of the closed ranges. -/
def inRanges (ranges : List (Nat × Nat)) (point : Nat) : Bool :=
  ranges.any fun r => r.1 ≤ point && point ≤ r.2

end TapeMachine.Text
