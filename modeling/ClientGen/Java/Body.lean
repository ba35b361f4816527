import ClientGen.Java.Code
import ClientGen.Java.Literal

/-
  Pieces of method bodies as parts of code.

  Key definitions include:
    * `quotedText`
    * `statement`
    * `block`
    * `followed`
    * `continued`

  Each piece leaves the indentation as it found it.
-/

namespace ClientGen.Java

/- A text as a literal. -/
def quotedText
    (value : String) :
    Code.Part :=
  .text (stringLiteral value)

/- A statement on a line of its own. -/
def statement
    (parts : List Code.Part) :
    List Code.Part :=
  parts ++ [.text ";\n"]

/- A block in braces, one level deeper than its head. -/
def block
    (head : List Code.Part)
    (body : List Code.Part) :
    List Code.Part :=
  head ++ [.text " \x7b\n", .indent] ++ body ++
    [.unindent, .text "\x7d\n"]

/- Two blocks on end, as of a test and its alternative. -/
def followed
    (head body nextHead nextBody : List Code.Part) :
    List Code.Part :=
  head ++ [.text " \x7b\n", .indent] ++ body ++
    [.unindent, .text "\x7d "] ++ nextHead ++
    [.text " \x7b\n", .indent] ++ nextBody ++
    [.unindent, .text "\x7d\n"]

/- A statement with further lines, two levels deeper. -/
def continued
    (head lines : List Code.Part) :
    List Code.Part :=
  head ++ [.indent, .indent] ++ lines ++
    [.unindent, .unindent]

end ClientGen.Java
