/-!
Sets of code points written as sorted ranges.
-/

namespace ZonedAccessors.Unicode

def covers : List (Nat × Nat) → Nat → Bool
  | [], _ => false
  | (first, last) :: rest, n => (first ≤ n && n ≤ last) || covers rest n

/-- Each entry is a first code point, a last one, and the step from one member to the next. -/
def strides : List (Nat × Nat × Nat) → Nat → Bool
  | [], _ => false
  | (first, last, step) :: rest, n =>
      (first ≤ n && n ≤ last && (n - first) % step == 0) || strides rest n

end ZonedAccessors.Unicode
