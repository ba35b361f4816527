import ClientGen.Toml.Scalar
import ClientGen.Toml.Table
import ClientGen.Toml.Text

/-
  The statements that a document consists of.

  Key definitions include:
    * `Statement`
    * `deepest`
    * `readKey`
    * `readValue`
    * `readStatements`

  Values nest, and so reading them takes a bound on the
  number of steps.  Each step reads at least one character,
  so that the length of the text is bound enough.  How deep
  values may nest and how long keys may be is limited.
-/

namespace ClientGen.Toml

------------------------------------------------------------
-- Blanks
------------------------------------------------------------

/- A text without spaces and tabs in front. -/
def skipBlanks
    (cs : List Char) :
    List Char :=
  cs.dropWhile fun c => c = ' ' || c = '\t'

/- What comes after a comment, from the end of its line. -/
def afterComment? : List Char → Option (List Char)
  | [] => some []
  | '\n' :: rest => some ('\n' :: rest)
  | '\r' :: '\n' :: rest => some ('\n' :: rest)
  | c :: rest => if isControl c then none else afterComment? rest

/- What comes after blanks, comments and line ends. -/
def skipLines : Nat → List Char → Option (List Char)
  | 0, _ => none
  | bound + 1, cs =>
      match skipBlanks cs with
      | '\n' :: rest => skipLines bound rest
      | '\r' :: '\n' :: rest => skipLines bound rest
      | '#' :: rest =>
          (afterComment? rest).bind (skipLines bound)
      | rest => some rest

/- The lines after this one, if it holds no more. -/
def afterLine?
    (cs : List Char) :
    Option (List Char) :=
  match skipBlanks cs with
  | [] => some []
  | '\n' :: rest => some rest
  | '\r' :: '\n' :: rest => some rest
  | '#' :: rest => afterComment? rest
  | _ => none

------------------------------------------------------------
-- Keys
------------------------------------------------------------

/- How many values may be in one another, or keys in a row. -/
def deepest : Nat :=
  80

/- Whether a character may be in a key without quotes. -/
def isBare
    (c : Char) :
    Bool :=
  c.isAlphanum || c = '_' || c = '-'

/- The key between two dots, and what comes after it. -/
def readKeyPart
    (cs : List Char) :
    Option (String × List Char) :=
  match cs with
  | '"' :: rest =>
      (readBasic rest).map fun (k, rest) =>
        (String.ofList k, rest)
  | '\x27' :: rest =>
      (readLiteral rest).map fun (k, rest) =>
        (String.ofList k, rest)
  | cs =>
      match cs.takeWhile isBare with
      | [] => none
      | key => some (String.ofList key, cs.dropWhile isBare)

/- The parts of a dotted key, and what comes after it. -/
def readKeyParts : Nat → List Char →
    Option (List String × List Char)
  | 0, _ => none
  | bound + 1, cs => do
      let (part, rest) ← readKeyPart (skipBlanks cs)
      match skipBlanks rest with
      | '.' :: rest =>
          let (parts, rest) ← readKeyParts bound rest
          some (part :: parts, rest)
      | rest => some ([part], rest)

/- The dotted key that a text starts with. -/
def readKey
    (cs : List Char) :
    Option (List String × List Char) := do
  let (parts, rest) ← readKeyParts (cs.length + 1) cs
  if parts.length ≤ deepest then some (parts, rest) else none

------------------------------------------------------------
-- Scalars
------------------------------------------------------------

/- Whether a character may be in a scalar. -/
def isScalarChar
    (c : Char) :
    Bool :=
  c.isAlphanum || c = '_' || c = '+' || c = '-' || c = '.' ||
    c = ':'

/-
  The scalar that a text starts with.  Between a day and a
  time there may be one space.
-/
def takeScalar
    (cs : List Char) :
    List Char × List Char :=
  let first := cs.takeWhile isScalarChar
  match cs.dropWhile isScalarChar with
  | ' ' :: c :: rest =>
      if c.isDigit && afterDay? first == some [] then
        (first ++ ' ' :: (c :: rest).takeWhile isScalarChar,
          (c :: rest).dropWhile isScalarChar)
      else (first, ' ' :: c :: rest)
  | rest => (first, rest)

/- The value of a scalar. -/
def scalar?
    (cs : List Char) :
    Option Value :=
  if cs = "true".toList then some (.flag true)
  else if cs = "false".toList then some (.flag false)
  else if isInteger cs || isDecimal cs then
    some (.number (String.ofList cs))
  else if isMoment cs then some (.moment (String.ofList cs))
  else none

------------------------------------------------------------
-- Values
------------------------------------------------------------

mutual

/-
  The value that a text starts with.  In it there may be so
  many more levels of values.
-/
def readValue : Nat → Nat → List Char →
    Option (Value × List Char)
  | 0, _, _ => none
  | bound + 1, levels, cs =>
      match levels, cs with
      | 0, '[' :: _ => none
      | 0, '\x7b' :: _ => none
      | levels + 1, '[' :: rest => do
          let (items, rest) ← readItems bound levels rest
          some (.array items, rest)
      | levels + 1, '\x7b' :: rest => do
          let (entries, rest) ←
            readMembers bound levels [] rest
          some (.table .written entries, rest)
      | _, cs =>
          match readString cs with
          | some (text, rest) =>
              some (.text (String.ofList text), rest)
          | none => do
              let (scalar, rest) := takeScalar cs
              some (← scalar? scalar, rest)

/- The items of an array, up to its closing bracket. -/
def readItems : Nat → Nat → List Char →
    Option (List Value × List Char)
  | 0, _, _ => none
  | bound + 1, levels, cs => do
      match ← skipLines (cs.length + 1) cs with
      | ']' :: rest => some ([], rest)
      | cs =>
          let (item, rest) ← readValue bound levels cs
          match ← skipLines (rest.length + 1) rest with
          | ',' :: rest =>
              let (items, rest) ← readItems bound levels rest
              some (item :: items, rest)
          | ']' :: rest => some ([item], rest)
          | _ => none

/-
  The entries of a table, up to its closing brace.  Between
  all of its parts there may be line ends.
-/
def readMembers : Nat → Nat → Entries → List Char →
    Option (Entries × List Char)
  | 0, _, _, _ => none
  | bound + 1, levels, entries, cs => do
      match ← skipLines (cs.length + 1) cs with
      | '\x7d' :: rest => some (entries, rest)
      | cs =>
          let (path, rest) ← readKey cs
          match ← skipLines (rest.length + 1) rest with
          | '=' :: rest =>
              let (value, rest) ← readValue bound levels
                (← skipLines (rest.length + 1) rest)
              let entries ← entries.assign path value
              match ← skipLines (rest.length + 1) rest with
              | ',' :: rest =>
                  readMembers bound levels entries rest
              | '\x7d' :: rest => some (entries, rest)
              | _ => none
          | _ => none

end

------------------------------------------------------------
-- Statements
------------------------------------------------------------

/-
  A statement gives a key its value, or heads the entries of
  a table or of one more table in a list.
-/
inductive Statement where
  | assign (path : List String) (value : Value)
  | table (path : List String)
  | item (path : List String)
  deriving Repr

/- The header after its brackets, up to the closing ones. -/
def readHeader
    (closing : List Char)
    (cs : List Char) :
    Option (List String × List Char) := do
  let (path, rest) ← readKey cs
  if closing.isPrefixOf rest then
    some (path, ← afterLine? (rest.drop closing.length))
  else none

/- The statement that a text starts with. -/
def readStatement
    (cs : List Char) :
    Option (Statement × List Char) := do
  match cs with
  | '[' :: '[' :: rest =>
      let (path, rest) ← readHeader [']', ']'] rest
      some (.item path, rest)
  | '[' :: rest =>
      let (path, rest) ← readHeader [']'] rest
      some (.table path, rest)
  | cs =>
      let (path, rest) ← readKey cs
      match rest with
      | '=' :: rest =>
          let (value, rest) ←
            readValue (rest.length + 1) deepest
              (skipBlanks rest)
          some (.assign path value, ← afterLine? rest)
      | _ => none

/- The statements of a text, at most so many. -/
def readStatements : Nat → List Char →
    Option (List Statement)
  | 0, _ => none
  | bound + 1, cs => do
      match ← skipLines (cs.length + 1) cs with
      | [] => some []
      | cs =>
          let (statement, rest) ← readStatement cs
          let statements ← readStatements bound rest
          some (statement :: statements)

end ClientGen.Toml
