/-
  White space, and the edges of a text.

  Key definitions include:
    * `isBlank`
    * `trimStart`
    * `trimEnd`
    * `trim`

  Blank are the characters with the Unicode property
  White_Space.  A zero-width space is not one of them.
-/

namespace ClientGen.Text

/- Whether a character is white space. -/
def isBlank
    (c : Char) :
    Bool :=
  let n := c.toNat
  (decide (0x09 ≤ n) && decide (n ≤ 0x0D)) || n == 0x20 ||
    n == 0x85 || n == 0xA0 || n == 0x1680 ||
    (decide (0x2000 ≤ n) && decide (n ≤ 0x200A)) ||
    n == 0x2028 || n == 0x2029 || n == 0x202F ||
    n == 0x205F || n == 0x3000

/- The text from its first character that is not blank. -/
def trimStart
    (cs : List Char) :
    List Char :=
  cs.dropWhile isBlank

/- The text up to its last character that is not blank. -/
def trimEnd : List Char → List Char
  | [] => []
  | c :: rest =>
      match trimEnd rest with
      | [] => if isBlank c then [] else [c]
      | d :: kept => c :: d :: kept

/- The text without the blanks at either edge. -/
def trim
    (cs : List Char) :
    List Char :=
  trimEnd (trimStart cs)

/- A string without the blanks at either edge. -/
def trimmed
    (s : String) :
    String :=
  String.ofList (trim s.toList)

end ClientGen.Text
