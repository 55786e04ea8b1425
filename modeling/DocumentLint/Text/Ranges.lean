/-! # Sets of characters given by ranges

A set is an increasing list of closed ranges of code points. Looking a
character up stops at the first range that begins above it.
-/

namespace DocumentLint

abbrev CodeRanges := List (Nat × Nat)

namespace CodeRanges

def has : CodeRanges → Nat → Bool
  | [], _ => false
  | (lo, hi) :: rest, n => lo ≤ n && (n ≤ hi || has rest n)

/-- Ranges follow each other with a gap, so that none can be merged. -/
def increasing : CodeRanges → Bool
  | [] => true
  | [(lo, hi)] => lo ≤ hi
  | (lo, hi) :: (lo', hi') :: rest =>
    lo ≤ hi && hi + 1 < lo' && increasing ((lo', hi') :: rest)

end CodeRanges

end DocumentLint
