/-
  This file defines closed intervals of code points and
  membership in an increasing list of them.  The character
  classes of the library are such lists.

  Key definitions include:
    * `CodeRange`
    * `CodeRange.covers`
-/

namespace KeyAssertion

/- A closed interval of code points. -/
structure CodeRange where
  first : Nat
  last : Nat
deriving DecidableEq, Repr

namespace CodeRange

/-
  Whether a code point lies in one of the ranges.  The ranges
  are in increasing order, so the search stops at the first
  range that begins after the code point.
-/
def covers : List CodeRange → Nat → Bool
  | [], _ => false
  | r :: rs, c =>
      if c < r.first then
        false
      else if c ≤ r.last then
        true
      else
        covers rs c

end CodeRange

end KeyAssertion
