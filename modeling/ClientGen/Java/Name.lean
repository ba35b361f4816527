import ClientGen.Text.Case
import ClientGen.Text.Lines

/-
  The names of the Java language, and how names of one kind
  are derived from another.

  Key definitions include:
    * `keywords`
    * `isIdentifier`
    * `isQualifiedName`
    * `capitalize`
    * `uncapitalize`
    * `variableName`

  Identifiers are confined to ASCII letters, digits,
  underscores and dollar signs.  The reserved literals count
  as keywords.
-/

namespace ClientGen.Java

open ClientGen.Text

------------------------------------------------------------
-- Keywords
------------------------------------------------------------

/- Words that cannot be used as names. -/
def keywords :
    List String :=
  ["abstract", "assert", "boolean", "break", "byte", "case",
   "catch", "char", "class", "const", "continue", "default",
   "do", "double", "else", "enum", "extends", "final",
   "finally", "float", "for", "goto", "if", "implements",
   "import", "instanceof", "int", "interface", "long",
   "native", "new", "package", "private", "protected",
   "public", "return", "short", "static", "strictfp",
   "super", "switch", "synchronized", "this", "throw",
   "throws", "transient", "try", "void", "volatile",
   "while", "true", "false", "null"]

/- Whether a name is reserved. -/
def isKeyword
    (name : String) :
    Bool :=
  keywords.contains name

------------------------------------------------------------
-- Identifiers
------------------------------------------------------------

/- Characters an identifier can begin with. -/
def isIdentifierStart
    (c : Char) :
    Bool :=
  (decide ('A' ≤ c) && decide (c ≤ 'Z')) ||
    (decide ('a' ≤ c) && decide (c ≤ 'z')) ||
    c == '_' || c == '$'

/- Characters an identifier can go on with. -/
def isIdentifierPart
    (c : Char) :
    Bool :=
  isIdentifierStart c ||
    (decide ('0' ≤ c) && decide (c ≤ '9'))

/- Whether a text has the characters of an identifier. -/
def hasIdentifierForm : List Char → Bool
  | [] => false
  | c :: rest =>
      isIdentifierStart c && rest.all isIdentifierPart

/- Whether a name is a single identifier and not reserved. -/
def isIdentifier
    (name : String) :
    Bool :=
  hasIdentifierForm name.toList && !isKeyword name

/- Whether a name is identifiers separated by dots. -/
def isQualifiedName
    (name : String) :
    Bool :=
  (pieces '.' name.toList).all
    fun piece => isIdentifier (String.ofList piece)

------------------------------------------------------------
-- Derived Names
------------------------------------------------------------

/- Put the first character in upper case. -/
def capitalize
    (name : String) :
    String :=
  match name.toList with
  | [] => ""
  | c :: rest => String.ofList (upperForm c ++ rest)

/-
  Whether lower-casing goes on: the next character is upper
  case and does not begin a word of its own, as it would
  before a lower-case one.
-/
def runContinues : List Char → Bool
  | [] => false
  | [c] => isUppercase c
  | c :: d :: _ => isUppercase c && !isLowercase d

/-
  Put the first character in lower case and, as long as it
  is followed by the rest of a run of capitals, those too.
-/
def lowerLeadingRun : List Char → List Char
  | [] => []
  | c :: rest =>
      lowerForm c ++
        (if runContinues rest then lowerLeadingRun rest
          else rest)

/-
  The name with its leading capitals in lower case, up to
  the one that begins the next word: `APostOperation` gives
  `aPostOperation`, and `EC2Instance` gives `ec2Instance`.
-/
def uncapitalize
    (name : String) :
    String :=
  String.ofList (lowerLeadingRun name.toList)

/- The name of a variable that holds a thing of that name. -/
def variableName
    (name : String) :
    String :=
  let candidate := uncapitalize name
  if isKeyword candidate then candidate ++ "Value"
  else candidate

end ClientGen.Java
