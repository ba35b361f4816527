import ClientGen.Decimal.Shortest

/-
  The numbers of JSON as they are written, and the value a
  reader takes them for.

  Key definitions include:
    * `Numeral`
    * `Numeral.lex`
    * `Number`
    * `Numeral.value`
    * `Number.text`

  A numeral without a fraction or an exponent is an integer
  as long as 64 bits hold it.  Every other numeral is a
  float, and one too large for a float has no value.
-/

namespace ClientGen.Json

open ClientGen.Decimal

------------------------------------------------------------
-- Numerals
------------------------------------------------------------

/- The exponent of a numeral. -/
structure Exponent where
  negative : Bool
  digits : List Char
  deriving DecidableEq, Repr

/- A number as it is written. -/
structure Numeral where
  negative : Bool
  whole : List Char
  fraction : Option (List Char)
  exponent : Option Exponent
  deriving DecidableEq, Repr

/- The digits of the decimal system. -/
def isDigit
    (c : Char) :
    Bool :=
  decide ('0' ≤ c) && decide (c ≤ '9')

/- The digits at the front of a text, and what is left. -/
def lexDigits
    (cs : List Char) :
    Option (List Char × List Char) :=
  let digits := cs.takeWhile isDigit
  if digits.isEmpty then none
  else some (digits, cs.dropWhile isDigit)

/- The fraction at the front of a text, if there is one. -/
def lexFraction : List Char →
    Option (Option (List Char) × List Char)
  | '.' :: rest =>
      (lexDigits rest).map fun (digits, more) =>
        (some digits, more)
  | rest => some (none, rest)

/- The digits of an exponent whose sign has been read. -/
def lexExponentDigits
    (negative : Bool)
    (cs : List Char) :
    Option (Option Exponent × List Char) :=
  (lexDigits cs).map fun (digits, more) =>
    (some ⟨negative, digits⟩, more)

/- What follows the letter of an exponent. -/
def lexSignedExponent : List Char →
    Option (Option Exponent × List Char)
  | '+' :: rest => lexExponentDigits false rest
  | '-' :: rest => lexExponentDigits true rest
  | rest => lexExponentDigits false rest

/- The exponent at the front of a text, if there is one. -/
def lexExponent : List Char →
    Option (Option Exponent × List Char)
  | 'e' :: rest => lexSignedExponent rest
  | 'E' :: rest => lexSignedExponent rest
  | rest => some (none, rest)

/- Digits with a zero in front of others are no number. -/
def wellBegun : List Char → Bool
  | '0' :: _ :: _ => false
  | _ => true

/- The numeral at the front of a text without its sign. -/
def Numeral.lexUnsigned
    (negative : Bool)
    (cs : List Char) :
    Option (Numeral × List Char) := do
  let (whole, rest) ← lexDigits cs
  if wellBegun whole then
    let (fraction, rest) ← lexFraction rest
    let (exponent, rest) ← lexExponent rest
    some (⟨negative, whole, fraction, exponent⟩, rest)
  else none

/- The numeral at the front of a text. -/
def Numeral.lex : List Char → Option (Numeral × List Char)
  | '-' :: rest => Numeral.lexUnsigned true rest
  | cs => Numeral.lexUnsigned false cs

------------------------------------------------------------
-- Progress
------------------------------------------------------------

theorem lexDigits_length
    {cs digits rest : List Char}
    (h : lexDigits cs = some (digits, rest)) :
    rest.length < cs.length := by
  simp only [lexDigits] at h
  split at h
  · simp at h
  · next hne =>
      obtain ⟨rfl, rfl⟩ := by simpa using h
      have hsplit :=
        congrArg List.length
          (List.takeWhile_append_dropWhile
            (p := isDigit) (l := cs))
      have hpos : 0 < (cs.takeWhile isDigit).length := by
        cases hd : cs.takeWhile isDigit <;> simp_all
      rw [List.length_append] at hsplit
      omega

theorem lexFraction_length
    {cs rest : List Char}
    {fraction : Option (List Char)}
    (h : lexFraction cs = some (fraction, rest)) :
    rest.length ≤ cs.length := by
  unfold lexFraction at h
  split at h
  · obtain ⟨⟨ds, r⟩, hr, he⟩ := Option.map_eq_some_iff.1 h
    obtain ⟨rfl, rfl⟩ := by simpa using he
    have := lexDigits_length hr
    simp only [List.length_cons]
    omega
  · obtain ⟨rfl, rfl⟩ := by simpa using h
    exact Nat.le_refl _

theorem lexExponentDigits_length
    {negative : Bool}
    {cs rest : List Char}
    {e : Option Exponent}
    (h : lexExponentDigits negative cs = some (e, rest)) :
    rest.length ≤ cs.length := by
  obtain ⟨⟨ds, r⟩, hr, he⟩ := Option.map_eq_some_iff.1 h
  obtain ⟨rfl, rfl⟩ := by simpa using he
  exact Nat.le_of_lt (lexDigits_length hr)

theorem lexSignedExponent_length
    {cs rest : List Char}
    {e : Option Exponent}
    (h : lexSignedExponent cs = some (e, rest)) :
    rest.length ≤ cs.length := by
  unfold lexSignedExponent at h
  split at h
  · exact Nat.le_succ_of_le (lexExponentDigits_length h)
  · exact Nat.le_succ_of_le (lexExponentDigits_length h)
  · exact lexExponentDigits_length h

theorem lexExponent_length
    {cs rest : List Char}
    {e : Option Exponent}
    (h : lexExponent cs = some (e, rest)) :
    rest.length ≤ cs.length := by
  unfold lexExponent at h
  split at h
  · exact Nat.le_succ_of_le (lexSignedExponent_length h)
  · exact Nat.le_succ_of_le (lexSignedExponent_length h)
  · obtain ⟨rfl, rfl⟩ := by simpa using h
    exact Nat.le_refl _

theorem Numeral.lexUnsigned_length
    {negative : Bool}
    {cs rest : List Char}
    {n : Numeral}
    (h : Numeral.lexUnsigned negative cs = some (n, rest)) :
    rest.length < cs.length := by
  simp only [Numeral.lexUnsigned, Option.bind_eq_bind,
    Option.bind_eq_some_iff] at h
  obtain ⟨⟨whole, r1⟩, h1, h⟩ := h
  split at h
  · simp only [Option.bind_eq_some_iff] at h
    obtain ⟨⟨fraction, r2⟩, h2, ⟨exponent, r3⟩, h3, h⟩ := h
    obtain ⟨rfl, rfl⟩ := by simpa using h
    have := lexDigits_length h1
    have := lexFraction_length h2
    have : r3.length ≤ r2.length := lexExponent_length h3
    omega
  · simp at h

/- A numeral takes at least one character. -/
theorem Numeral.lex_length
    {cs rest : List Char}
    {n : Numeral}
    (h : Numeral.lex cs = some (n, rest)) :
    rest.length < cs.length := by
  unfold Numeral.lex at h
  split at h
  · exact Nat.lt_succ_of_lt (Numeral.lexUnsigned_length h)
  · exact Numeral.lexUnsigned_length h

------------------------------------------------------------
-- Values
------------------------------------------------------------

/- What a numeral is taken for. -/
inductive Number where
  | integer (n : Int)
  | float (x : Float)
  deriving Repr

/- The number a digit stands for. -/
def digitValue
    (c : Char) :
    Nat :=
  c.toNat - '0'.toNat

/-
  Append digits to a significand as long as 64 bits hold it,
  and return the digits that no longer fit.
-/
def absorb
    (significand : Nat) :
    List Char → Nat × List Char
  | [] => (significand, [])
  | c :: rest =>
      let next := significand * 10 + digitValue c
      if next < Nat.pow 2 64 then absorb next rest
      else (significand, c :: rest)

/- A power of ten as a float. -/
def powerOfTen
    (n : Nat) :
    Float :=
  Float.ofScientific 1 false n

/-
  Divide by a power of ten, in steps that floats have powers
  for.
-/
def divideDown
    (x : Float)
    (n : Nat) :
    Float :=
  if 308 < n then
    if x == 0 then x
    else divideDown (x / powerOfTen 308) (n - 308)
  else x / powerOfTen n
termination_by n
decreasing_by omega

/- Multiply by a power of ten, if the result is finite. -/
def multiplyUp
    (x : Float)
    (n : Nat) :
    Option Float :=
  if 308 < n then
    if x == 0 then some x else none
  else
    let y := x * powerOfTen n
    if y.isInf then none else some y

/-
  The float of a significand and a power of ten.  Each of the
  two steps rounds, so the result can be a neighbour of the
  nearest float.
-/
def scaled
    (significand : Nat)
    (power : Int) :
    Option Float :=
  let x := Float.ofNat significand
  match power with
  | .ofNat n => multiplyUp x n
  | .negSucc n => some (divideDown x (n + 1))

/- The exponent a numeral is written with, or zero. -/
def Numeral.power
    (n : Numeral) :
    Int :=
  match n.exponent with
  | none => 0
  | some e =>
      let size : Nat :=
        e.digits.foldl (fun k c => k * 10 + digitValue c) 0
      if e.negative then -(size : Int) else size

/- The float a numeral is taken for. -/
def Numeral.float
    (n : Numeral) :
    Option Float :=
  let (whole, dropped) := absorb 0 n.whole
  let fraction := n.fraction.getD []
  let (significand, unused) := absorb whole fraction
  let power : Int :=
    n.power + dropped.length -
      (fraction.length - unused.length : Nat)
  (scaled significand power).map fun x =>
    if n.negative then -x else x

/- The value of a numeral. -/
def Numeral.value
    (n : Numeral) :
    Option Number :=
  let (whole, dropped) := absorb 0 n.whole
  let isWhole :=
    dropped.isEmpty && n.fraction.isNone && n.exponent.isNone
  if isWhole && !n.negative then
    some (.integer whole)
  else if isWhole && whole != 0 &&
      decide (whole ≤ Nat.pow 2 63) then
    some (.integer (-(whole : Int)))
  else n.float.map .float

------------------------------------------------------------
-- Texts
------------------------------------------------------------

/-
  A finite float in the fewest digits.  It is positional,
  with a point in any case, if its leading digit lies between
  the fifth place behind the point and the sixteenth before
  it.  Otherwise it has an exponent with a sign of its own.
-/
def floatText
    (x : Float) :
    String :=
  let sign := if isNegative x then "-" else ""
  let d := (Binary.ofFloat x).shortest
  let digits := Nat.toDigits 10 d.digits
  let places : Int := digits.length + d.exponent
  let zeros (n : Int) : List Char :=
    List.replicate n.toNat '0'
  let body : List Char :=
    if d.digits = 0 then ['0', '.', '0']
    else if 0 ≤ d.exponent ∧ places ≤ 16 then
      digits ++ zeros d.exponent ++ ['.', '0']
    else if 0 < places ∧ places ≤ 16 then
      digits.take places.toNat ++
        '.' :: digits.drop places.toNat
    else if -5 < places ∧ places ≤ 0 then
      '0' :: '.' :: (zeros (-places) ++ digits)
    else
      let mark := if 0 < places then "+" else "-"
      let power :=
        (mark ++ toString (places - 1).natAbs).toList
      match digits with
      | [] => []
      | [c] => c :: 'e' :: power
      | c :: more => c :: '.' :: (more ++ 'e' :: power)
  sign ++ String.ofList body

/- A number as messages show it. -/
def Number.text : Number → String
  | .integer n => toString n
  | .float x => floatText x

end ClientGen.Json
