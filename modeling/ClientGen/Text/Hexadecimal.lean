/-
  Characters by their numbers in base sixteen.

  Key definitions include:
    * `hexDigit?`
    * `scalarChar?`
-/

namespace ClientGen.Text

/- The value of a hexadecimal digit. -/
def hexDigit?
    (c : Char) :
    Option Nat :=
  if '0' ≤ c ∧ c ≤ '9' then some (c.toNat - 48)
  else if 'a' ≤ c ∧ c ≤ 'f' then some (c.toNat - 87)
  else if 'A' ≤ c ∧ c ≤ 'F' then some (c.toNat - 55)
  else none

/- The character with a number, halves of pairs excluded. -/
def scalarChar?
    (n : Nat) :
    Option Char :=
  if n.isValidChar then some (Char.ofNat n) else none

end ClientGen.Text
