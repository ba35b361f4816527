import ClientGen.Text.CaseTable
import ClientGen.Text.CaseIgnorableTable

/-
  Letter case of characters and texts, by the full Unicode
  mappings: one character may become several.

  Key definitions include:
    * `isUppercase`
    * `isLowercase`
    * `lowerForm`
    * `upperForm`
    * `lowercase`

  Only `lowercase` looks at a character's neighbours: a
  capital sigma that ends a word becomes the final small
  sigma.
-/

namespace ClientGen.Text

------------------------------------------------------------
-- Classes
------------------------------------------------------------

/- Whether a character is upper case. -/
def isUppercase
    (c : Char) :
    Bool :=
  inRanges uppercaseRanges c

/- Whether a character is lower case. -/
def isLowercase
    (c : Char) :
    Bool :=
  inRanges lowercaseRanges c

/- Whether a character has a case at all. -/
def isCased
    (c : Char) :
    Bool :=
  isUppercase c || isLowercase c ||
    inRanges titlecaseRanges c

/- Whether rules about case look through a character. -/
def isCaseIgnorable
    (c : Char) :
    Bool :=
  inRanges caseIgnorableRanges c

------------------------------------------------------------
-- Forms of a Character
------------------------------------------------------------

/-
  The image of a character under a table of shifts and a
  table of longer images.  A character in neither is its own
  image.
-/
def caseForm
    (shifts : List CodeShift)
    (expansions : List (Nat × List Nat))
    (c : Char) :
    List Char :=
  match shifts.find? (·.source.contains c.toNat) with
  | some s => [Char.ofNat (s.apply c.toNat)]
  | none =>
      match expansions.lookup c.toNat with
      | some codes => codes.map Char.ofNat
      | none => [c]

/- The lower-case form of a character on its own. -/
def lowerForm
    (c : Char) :
    List Char :=
  caseForm lowerShifts lowerExpansions c

/- The upper-case form of a character on its own. -/
def upperForm
    (c : Char) :
    List Char :=
  caseForm upperShifts upperExpansions c

------------------------------------------------------------
-- Texts
------------------------------------------------------------

/-
  Whether the first character that is not looked through has
  a case.
-/
def casedNext
    (cs : List Char) :
    Bool :=
  match cs.dropWhile isCaseIgnorable with
  | [] => false
  | c :: _ => isCased c

/-
  Lower-case the rest of a text whose earlier characters,
  nearest first, are `before`.
-/
def lowercaseAfter
    (before : List Char) :
    List Char → List Char
  | [] => []
  | c :: rest =>
      (if c = '\u03a3' ∧ casedNext before ∧ ¬ casedNext rest
        then ['\u03c2']
        else lowerForm c) ++ lowercaseAfter (c :: before) rest

/- The lower-case form of a text. -/
def lowercase
    (s : String) :
    String :=
  String.ofList (lowercaseAfter [] s.toList)

end ClientGen.Text
