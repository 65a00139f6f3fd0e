/-!
# Sets of code points

Sets of code points given by ranges, the form in which the Unicode tables of this library are
written.
-/

namespace Scaffold.Text

def inRanges (ranges : List (Nat × Nat)) (n : Nat) : Bool :=
  ranges.any fun r => r.1 ≤ n && n ≤ r.2

/-- Whether a code point lies in one of the given progressions `(first, last, step)`. -/
def inProgressions (progressions : List (Nat × Nat × Nat)) (n : Nat) : Bool :=
  progressions.any fun p => p.1 ≤ n && n ≤ p.2.1 && (n - p.1) % p.2.2 == 0

end Scaffold.Text
