/-
  Tables over code points.

  Key definitions include:
    * `CodeRange`
    * `CodeRange.contains`
    * `CodeShift`
    * `CodeShift.apply`
    * `inRanges`

  A range lists the code points from its first to its last
  in equal steps, so that an alphabet in which capital and
  small letters alternate is a single row.
-/

namespace ClientGen.Text

------------------------------------------------------------
-- Ranges
------------------------------------------------------------

/- The code points `first`, `first + step`, …, `last`. -/
structure CodeRange where
  first : Nat
  last : Nat
  step : Nat
  deriving DecidableEq, Repr

/- Whether a code point is listed by the range. -/
def CodeRange.contains
    (r : CodeRange)
    (n : Nat) :
    Bool :=
  decide (r.first ≤ n) && decide (n ≤ r.last) &&
    (n - r.first) % r.step == 0

/- Whether the character is listed by one of the ranges. -/
def inRanges
    (rs : List CodeRange)
    (c : Char) :
    Bool :=
  rs.any (·.contains c.toNat)

------------------------------------------------------------
-- Shifts
------------------------------------------------------------

/-
  A range moved as a whole so that its first code point
  lands on `target`.
-/
structure CodeShift where
  source : CodeRange
  target : Nat
  deriving DecidableEq, Repr

/- The image of a code point of the source range. -/
def CodeShift.apply
    (s : CodeShift)
    (n : Nat) :
    Nat :=
  s.target + (n - s.source.first)

end ClientGen.Text
