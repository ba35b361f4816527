/-
  String literals of the Java language.

  Key definitions include:
    * `escapeChar`
    * `stringLiteral`

  Only what would end the literal or break its line is
  escaped; every other character stands for itself.
-/

namespace ClientGen.Java

/- One character inside a literal. -/
def escapeChar
    (c : Char) :
    List Char :=
  if c = '"' then ['\\', '"']
  else if c = '\\' then ['\\', '\\']
  else if c = '\n' then ['\\', 'n']
  else if c = '\r' then ['\\', 'r']
  else if c = '\t' then ['\\', 't']
  else [c]

/- The literal that stands for a text. -/
def stringLiteral
    (value : String) :
    String :=
  String.ofList
    ('"' :: (value.toList.flatMap escapeChar ++ ['"']))

end ClientGen.Java
