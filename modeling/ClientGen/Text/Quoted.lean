import ClientGen.Text.CodeRange
import ClientGen.Text.PrintableTable

/-
  Text in quotes for a reader's eye: nothing in it is
  invisible, and nothing joins its neighbour.

  Key definitions include:
    * `quoted`

  Quotes and backslashes get a backslash, the common
  controls their letters, and every other character that
  would not show its number in hexadecimal.
-/

namespace ClientGen.Text

/- A character by its number, as in `\u{1f}`. -/
def numbered
    (c : Char) :
    List Char :=
  '\\' :: 'u' :: '\x7b' ::
    (Nat.toDigits 16 c.toNat ++ ['\x7d'])

/- One character of a quoted text. -/
def quotedChar
    (c : Char) :
    List Char :=
  if c = '\x00' then ['\\', '0']
  else if c = '\t' then ['\\', 't']
  else if c = '\r' then ['\\', 'r']
  else if c = '\n' then ['\\', 'n']
  else if c = '"' ∨ c = '\\' then ['\\', c]
  else if inRanges joiningRanges c then numbered c
  else if inRanges unprintableRanges c then numbered c
  else [c]

/- A text in double quotes. -/
def quoted
    (s : String) :
    String :=
  String.ofList
    ('"' :: (s.toList.flatMap quotedChar ++ ['"']))

end ClientGen.Text
