/-!
# Sets of code points

A property of characters is kept as the list of the ranges of code points that
have it. Membership is a walk over the list: characters beyond ASCII are rare in
templates, and every property that is asked often answers for ASCII before it
looks at its list.
-/

namespace Retag.Text

/-- A set of code points, as inclusive ranges in increasing order. -/
abbrev CodePoints := List (Nat × Nat)

/-- Whether one of the ranges holds the code point. -/
def CodePoints.has (ranges : CodePoints) (code : Nat) : Bool :=
  ranges.any fun range => range.1 ≤ code && code ≤ range.2

end Retag.Text
