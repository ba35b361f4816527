import ClientGen.Decimal.Shortest
import ClientGen.Text.Hexadecimal

/-
  Numbers and moments as TOML writes them.

  Key definitions include:
    * `isInteger`
    * `isDecimal`
    * `hasValue`
    * `isMoment`

  Nothing here is calculated with, so that it is enough to
  tell what is well-formed.  A number that is well-formed
  need not have a value: it can be too large, and after the
  mark of a base there can be no digits.
-/

namespace ClientGen.Toml

open ClientGen.Text

------------------------------------------------------------
-- Digits
------------------------------------------------------------

/- Digits with single underscores between them. -/
def isDigitRun
    (isDigit : Char → Bool) :
    List Char → Bool
  | [] => false
  | [c] => isDigit c
  | c :: '_' :: rest => isDigit c && isDigitRun isDigit rest
  | c :: rest => isDigit c && isDigitRun isDigit rest

/- A text without a sign in front. -/
def unsigned : List Char → List Char
  | '+' :: rest => rest
  | '-' :: rest => rest
  | cs => cs

/- Digits that do not start with an idle zero. -/
def isWhole
    (cs : List Char) :
    Bool :=
  isDigitRun Char.isDigit cs &&
    (cs.head? ≠ some '0' || cs.length == 1)

------------------------------------------------------------
-- Numbers
------------------------------------------------------------

/- Whether a character is a digit of base sixteen. -/
def isHexDigit
    (c : Char) :
    Bool :=
  c.isDigit || ('a' ≤ c && c ≤ 'f') || ('A' ≤ c && c ≤ 'F')

/- Digits after the mark of a base, or nothing. -/
def isBasedRun
    (isDigit : Char → Bool)
    (cs : List Char) :
    Bool :=
  cs.isEmpty || isDigitRun isDigit cs

/- Whether a text is a whole number in any base. -/
def isInteger : List Char → Bool
  | '0' :: 'x' :: rest => isBasedRun isHexDigit rest
  | '0' :: 'o' :: rest =>
      isBasedRun (fun c => '0' ≤ c && c ≤ '7') rest
  | '0' :: 'b' :: rest =>
      isBasedRun (fun c => c = '0' || c = '1') rest
  | cs => isWhole (unsigned cs)

/- Whether a character opens an exponent. -/
def opensExponent
    (c : Char) :
    Bool :=
  c = 'e' || c = 'E'

/- Whether a text is an exponent, or nothing. -/
def isExponent : List Char → Bool
  | [] => true
  | c :: rest =>
      opensExponent c &&
        isDigitRun Char.isDigit (unsigned rest)

/- Whether a text is a number with a point or an exponent. -/
def isDecimal
    (cs : List Char) :
    Bool :=
  let bare := unsigned cs
  let opens := fun c => c = '.' || opensExponent c
  let whole := bare.takeWhile (!opens ·)
  bare = "inf".toList || bare = "nan".toList ||
    (isWhole whole &&
      match bare.dropWhile (!opens ·) with
      | [] => false
      | '.' :: rest =>
          isDigitRun Char.isDigit
              (rest.takeWhile (!opensExponent ·)) &&
            isExponent (rest.dropWhile (!opensExponent ·))
      | exponent => isExponent exponent)

------------------------------------------------------------
-- Values
------------------------------------------------------------

/- The number that digits write; underscores do not count. -/
def digitsValue
    (base : Nat)
    (cs : List Char) :
    Nat :=
  cs.foldl
    (fun n c =>
      match hexDigit? c with
      | some d => n * base + d
      | none => n)
    0

/- Whether digits of a base write a number of 128 bits. -/
def fitsWord
    (base : Nat)
    (cs : List Char) :
    Bool :=
  !cs.isEmpty && decide (digitsValue base cs < Nat.pow 2 128)

/-
  Whether 128 bits hold a whole number, one of them being
  the sign if it is negative.
-/
def integerHasValue : List Char → Bool
  | '0' :: 'x' :: rest => fitsWord 16 rest
  | '0' :: 'o' :: rest => fitsWord 8 rest
  | '0' :: 'b' :: rest => fitsWord 2 rest
  | '-' :: rest => decide (digitsValue 10 rest ≤ Nat.pow 2 127)
  | cs => fitsWord 10 (unsigned cs)

/- The exponent of a number with a point or an exponent. -/
def exponentOf : List Char → Int
  | '-' :: rest => -(digitsValue 10 rest : Int)
  | cs => digitsValue 10 (unsigned cs)

/-
  Whether the number `significand * 10 ^ power` is below the
  middle between the largest float and the power of two that
  would come next.  Only numbers of about that size have to
  be calculated.
-/
def isFinite
    (significand : Nat)
    (power : Int) :
    Bool :=
  let places : Int :=
    (Nat.toDigits 10 significand).length + power
  if significand = 0 || places < 300 then true
  else if 320 < places then false
  else
    Decimal.compareScaled significand power
      (Nat.pow 2 54 - 1) 970 == .lt

/-
  Whether a number with a point or an exponent is not too
  large for a float.
-/
def decimalHasValue
    (cs : List Char) :
    Bool :=
  let bare := unsigned cs
  let mantissa := bare.takeWhile (!opensExponent ·)
  let exponent := (bare.dropWhile (!opensExponent ·)).drop 1
  let places :=
    ((mantissa.dropWhile (· ≠ '.')).filter Char.isDigit).length
  bare = "inf".toList || bare = "nan".toList ||
    isFinite (digitsValue 10 (mantissa.filter Char.isDigit))
      (exponentOf exponent - places)

/- Whether a well-formed number has a value. -/
def hasValue
    (cs : List Char) :
    Bool :=
  if isInteger cs then integerHasValue cs
  else decimalHasValue cs

------------------------------------------------------------
-- Moments
------------------------------------------------------------

/- The number that two digits write. -/
def twoDigits
    (a b : Char) :
    Option Nat :=
  if a.isDigit && b.isDigit then
    some ((a.toNat - 48) * 10 + (b.toNat - 48))
  else none

/- The number of days of a month. -/
def daysOf
    (year month : Nat) :
    Nat :=
  if month = 2 then
    if year % 4 = 0 && (year % 100 ≠ 0 || year % 400 = 0)
    then 29 else 28
  else if [4, 6, 9, 11].contains month then 30
  else 31

/- What comes after the day that a text starts with. -/
def afterDay? : List Char → Option (List Char)
  | a :: b :: c :: d :: '-' :: e :: f :: '-' :: g :: h ::
      rest => do
      let year := (← twoDigits a b) * 100 + (← twoDigits c d)
      let month ← twoDigits e f
      let day ← twoDigits g h
      if 1 ≤ month ∧ month ≤ 12 ∧ 1 ≤ day ∧
          day ≤ daysOf year month then some rest
      else none
  | _ => none

/- What comes after a fraction of a second, if any. -/
def afterFraction? : List Char → Option (List Char)
  | '.' :: c :: rest =>
      if c.isDigit then some (rest.dropWhile Char.isDigit)
      else none
  | '.' :: [] => none
  | cs => some cs

/- What comes after hours and minutes. -/
def afterMinutes? : List Char → Option (List Char)
  | a :: b :: ':' :: c :: d :: rest => do
      let hour ← twoDigits a b
      let minute ← twoDigits c d
      if hour ≤ 23 ∧ minute ≤ 59 then some rest else none
  | _ => none

/- What comes after the time that a text starts with. -/
def afterTime?
    (cs : List Char) :
    Option (List Char) := do
  match ← afterMinutes? cs with
  | ':' :: a :: b :: rest =>
      let second ← twoDigits a b
      if second ≤ 60 then afterFraction? rest else none
  | ':' :: _ => none
  | rest => some rest

/- Whether a text is the distance from the zero meridian. -/
def isOffset : List Char → Bool
  | [] => true
  | ['Z'] => true
  | ['z'] => true
  | '+' :: rest => afterMinutes? rest == some []
  | '-' :: rest => afterMinutes? rest == some []
  | _ => false

/- Whether a text is a day, a time, or both. -/
def isMoment
    (cs : List Char) :
    Bool :=
  match afterDay? cs with
  | some [] => true
  | some (c :: rest) =>
      (c = 'T' || c = 't' || c = ' ') &&
        (afterTime? rest).any isOffset
  | none => afterTime? cs == some []

end ClientGen.Toml
