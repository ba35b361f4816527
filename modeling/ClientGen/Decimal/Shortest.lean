/-
  The shortest decimal that reads back as a given binary
  floating-point number.

  Key definitions include:
    * `Binary`
    * `Binary.ofFloat`
    * `DecimalNumber`
    * `Binary.readsBack`
    * `Binary.shortest`

  A magnitude is taken as `mantissa * 2 ^ exponent`.  The
  reals that round to it form an interval, which includes
  its ends if the mantissa is even.  Powers of ten are tried
  from the largest down; the first that has a multiple in
  the interval gives the fewest digits, and of its multiples
  the nearest is taken, an even one on a tie.
-/

namespace ClientGen.Decimal

------------------------------------------------------------
-- Numbers
------------------------------------------------------------

/-
  The magnitude of a float.  The gap below a power of two is
  narrower than the gap above it.
-/
structure Binary where
  mantissa : Nat
  exponent : Int
  narrowBelow : Bool
  deriving DecidableEq, Repr

/- The magnitude of a finite float. -/
def Binary.ofFloat
    (x : Float) :
    Binary :=
  let bits : Nat := x.toBits.toNat
  let fraction : Nat := bits % Nat.pow 2 52
  let scale : Nat := bits / Nat.pow 2 52 % Nat.pow 2 11
  if scale = 0 then ⟨fraction, -1074, false⟩
  else
    ⟨fraction + Nat.pow 2 52, (scale : Int) - 1075,
      fraction == 0 && decide (1 < scale)⟩

/- Whether a float carries a minus sign. -/
def isNegative
    (x : Float) :
    Bool :=
  decide (Nat.pow 2 63 ≤ x.toBits.toNat)

/- The number `digits * 10 ^ exponent`. -/
structure DecimalNumber where
  digits : Nat
  exponent : Int
  deriving DecidableEq, Repr

------------------------------------------------------------
-- Reading Back
------------------------------------------------------------

/- Compare `a * 10 ^ i` with `n * 2 ^ j`. -/
def compareScaled
    (a : Nat)
    (i : Int)
    (n : Nat)
    (j : Int) :
    Ordering :=
  compare
    (a * Nat.pow 10 i.toNat * Nat.pow 2 (-j).toNat)
    (n * Nat.pow 2 j.toNat * Nat.pow 10 (-i).toNat)

/- Whether a decimal is one of the reals that round to `x`. -/
def Binary.readsBack
    (x : Binary)
    (d : DecimalNumber) :
    Bool :=
  let low :=
    if x.narrowBelow then 4 * x.mantissa - 1
    else 4 * x.mantissa - 2
  let high := 4 * x.mantissa + 2
  let closed := x.mantissa % 2 == 0
  let below :=
    compareScaled d.digits d.exponent low (x.exponent - 2)
  let above :=
    compareScaled d.digits d.exponent high (x.exponent - 2)
  (below == .gt || (closed && below == .eq)) &&
    (above == .lt || (closed && above == .eq))

------------------------------------------------------------
-- The Shortest
------------------------------------------------------------

/-
  The neighbours of `x` among the multiples of a power of
  ten, the nearer one first.
-/
def Binary.neighbours
    (x : Binary)
    (power : Int) :
    List DecimalNumber :=
  let numerator :=
    x.mantissa * Nat.pow 2 x.exponent.toNat *
      Nat.pow 10 (-power).toNat
  let denominator :=
    Nat.pow 2 (-x.exponent).toNat * Nat.pow 10 power.toNat
  let floor := numerator / denominator
  let rest := numerator % denominator
  let low : DecimalNumber := ⟨floor, power⟩
  let high : DecimalNumber := ⟨floor + 1, power⟩
  match compare (2 * rest) denominator with
  | .lt => [low, high]
  | .gt => [high, low]
  | .eq => if floor % 2 = 0 then [low, high] else [high, low]

/-
  The first neighbour that reads back, from a power of ten
  downwards.  The number itself stands in if no power of the
  given count does.
-/
def Binary.searchFrom
    (x : Binary) :
    Nat → Int → DecimalNumber
  | 0, _ => ⟨x.mantissa, 0⟩
  | count + 1, power =>
      match (x.neighbours power).find? x.readsBack with
      | some d => d
      | none => Binary.searchFrom x count (power - 1)

/- The shortest decimal of a magnitude. -/
def Binary.shortest
    (x : Binary) :
    DecimalNumber :=
  if x.mantissa = 0 then ⟨0, 0⟩
  else x.searchFrom 640 309

end ClientGen.Decimal
