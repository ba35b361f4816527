/-
  Texts measured in bytes.

  Key definitions include:
    * `byteCount`
    * `takeBytes?`
    * `dropBytes?`

  A character is written as one to four bytes.  A number of
  bytes that ends within a character cuts no text there.
-/

namespace ClientGen.Text

/- The number of bytes of a text. -/
def byteCount : List Char → Nat
  | [] => 0
  | c :: rest => c.utf8Size + byteCount rest

/- The start of a text that takes so many bytes. -/
def takeBytes? : Nat → List Char → Option (List Char)
  | 0, _ => some []
  | _, [] => none
  | n, c :: rest =>
      if c.utf8Size ≤ n then
        (takeBytes? (n - c.utf8Size) rest).map (c :: ·)
      else none

/- What comes after so many bytes of a text. -/
def dropBytes? : Nat → List Char → Option (List Char)
  | 0, cs => some cs
  | _, [] => none
  | n, c :: rest =>
      if c.utf8Size ≤ n then dropBytes? (n - c.utf8Size) rest
      else none

end ClientGen.Text
