import ClientGen.Text.AlphabeticTable

/-
  Letters and digits of all scripts.

  Key definitions include:
    * `isAlphabetic`
    * `isAlphanumeric`
-/

namespace ClientGen.Text

/- Whether a character is part of words. -/
def isAlphabetic
    (c : Char) :
    Bool :=
  inRanges alphabeticRanges c

/- Whether a character is part of words or numbers. -/
def isAlphanumeric
    (c : Char) :
    Bool :=
  isAlphabetic c || inRanges numericRanges c

end ClientGen.Text
