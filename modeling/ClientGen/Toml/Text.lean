import ClientGen.Text.Hexadecimal

/-
  String literals of TOML.

  Key definitions include:
    * `escape?`
    * `readBasic`
    * `readBlock`
    * `readLiteral`
    * `readString`
    * `Style`
    * `Style.ofText`
    * `spell`

  A literal stands in one or in three quotes.  Between
  double quotes there are escapes, and single quotes stand
  around the text as it is.
-/

namespace ClientGen.Toml

open ClientGen.Text

------------------------------------------------------------
-- Characters
------------------------------------------------------------

/- Whether a character may not stand in a line. -/
def isControl
    (c : Char) :
    Bool :=
  (c < ' ' && c ≠ '\t') || c == '\x7f'

/- The number that so many hexadecimal digits write. -/
def hexNumber
    (width : Nat)
    (cs : List Char) :
    Option Nat :=
  if cs.length < width then none
  else (cs.take width).foldlM
    (fun n c => (hexDigit? c).map (n * 16 + ·)) 0

/-
  The character that the escape after a backslash stands
  for, and how many characters the escape takes up.
-/
def escape? : List Char → Option (Char × Nat)
  | 'b' :: _ => some ('\x08', 1)
  | 't' :: _ => some ('\t', 1)
  | 'n' :: _ => some ('\n', 1)
  | 'f' :: _ => some ('\x0c', 1)
  | 'r' :: _ => some ('\r', 1)
  | 'e' :: _ => some ('\x1b', 1)
  | '"' :: _ => some ('"', 1)
  | '\\' :: _ => some ('\\', 1)
  | 'x' :: rest =>
      ((hexNumber 2 rest).bind scalarChar?).map (·, 3)
  | 'u' :: rest =>
      ((hexNumber 4 rest).bind scalarChar?).map (·, 5)
  | 'U' :: rest =>
      ((hexNumber 8 rest).bind scalarChar?).map (·, 9)
  | _ => none

------------------------------------------------------------
-- Reading
------------------------------------------------------------

/- A text that has been read, and what comes after it. -/
abbrev TextRead :=
  Option (List Char × List Char)

/- One more character in front of a text. -/
def TextRead.before
    (c : Char)
    (read : TextRead) :
    TextRead :=
  read.map fun (text, rest) => (c :: text, rest)

/- The text after a double quote, up to the next. -/
def readBasic : List Char → TextRead
  | [] => none
  | '"' :: rest => some ([], rest)
  | '\\' :: rest =>
      match escape? rest with
      | none => none
      | some (c, width) =>
          TextRead.before c (readBasic (rest.drop width))
  | c :: rest =>
      if isControl c then none
      else TextRead.before c (readBasic rest)
termination_by cs => cs.length
decreasing_by
  · simp only [List.length_drop, List.length_cons]; omega
  · simp only [List.length_cons]; omega

/- A text without the blanks and line ends in front. -/
def skipSpace : List Char → List Char
  | ' ' :: rest => skipSpace rest
  | '\t' :: rest => skipSpace rest
  | '\n' :: rest => skipSpace rest
  | '\r' :: '\n' :: rest => skipSpace rest
  | cs => cs

/-
  A backslash at the end of a line takes all blanks and
  line ends after it along.
-/
def continuation?
    (rest : List Char) :
    Option (List Char) :=
  match rest.dropWhile (fun c => c = ' ' ∨ c = '\t') with
  | '\n' :: more => some (skipSpace more)
  | '\r' :: '\n' :: more => some (skipSpace more)
  | _ => none

/- The number of characters that a continuation takes up. -/
def continuationWidth?
    (rest : List Char) :
    Option Nat :=
  (continuation? rest).map fun more =>
    rest.length - more.length

/-
  The text of a block up to its three closing quotes.  Up to
  two more quotes before them belong to the text.  Line ends
  stay what they are.
-/
def readBlock : List Char → TextRead
  | [] => none
  | '"' :: '"' :: '"' :: '"' :: '"' :: rest =>
      some (['"', '"'], rest)
  | '"' :: '"' :: '"' :: '"' :: rest => some (['"'], rest)
  | '"' :: '"' :: '"' :: rest => some ([], rest)
  | '\\' :: rest =>
      match continuationWidth? rest with
      | some width => readBlock (rest.drop width)
      | none =>
          match escape? rest with
          | none => none
          | some (c, width) =>
              TextRead.before c (readBlock (rest.drop width))
  | '\r' :: '\n' :: rest =>
      TextRead.before '\r'
        (TextRead.before '\n' (readBlock rest))
  | c :: rest =>
      if isControl c && c ≠ '\n' then none
      else TextRead.before c (readBlock rest)
termination_by cs => cs.length
decreasing_by
  · simp only [List.length_drop, List.length_cons]; omega
  · simp only [List.length_drop, List.length_cons]; omega
  · simp only [List.length_cons]; omega
  · simp only [List.length_cons]; omega

/- The text after a single quote, up to the next. -/
def readLiteral : List Char → TextRead
  | [] => none
  | '\x27' :: rest => some ([], rest)
  | c :: rest =>
      if isControl c then none
      else TextRead.before c (readLiteral rest)

/- The text of a block up to three single quotes. -/
def readLiteralBlock : List Char → TextRead
  | [] => none
  | '\x27' :: '\x27' :: '\x27' :: '\x27' :: '\x27' :: rest =>
      some (['\x27', '\x27'], rest)
  | '\x27' :: '\x27' :: '\x27' :: '\x27' :: rest =>
      some (['\x27'], rest)
  | '\x27' :: '\x27' :: '\x27' :: rest => some ([], rest)
  | '\r' :: '\n' :: rest =>
      TextRead.before '\r'
        (TextRead.before '\n' (readLiteralBlock rest))
  | c :: rest =>
      if isControl c && c ≠ '\n' then none
      else TextRead.before c (readLiteralBlock rest)

/- A block without a line end right after its quotes. -/
def blockStart : List Char → List Char
  | '\n' :: rest => rest
  | '\r' :: '\n' :: rest => rest
  | cs => cs

/- The string literal that a text starts with. -/
def readString : List Char → TextRead
  | '"' :: '"' :: '"' :: rest => readBlock (blockStart rest)
  | '"' :: rest => readBasic rest
  | '\x27' :: '\x27' :: '\x27' :: rest =>
      readLiteralBlock (blockStart rest)
  | '\x27' :: rest => readLiteral rest
  | _ => none

------------------------------------------------------------
-- Styles
------------------------------------------------------------

/- The four kinds of literals. -/
inductive Style where
  | basic
  | literal
  | block
  | literalBlock
  deriving DecidableEq, Repr

/- The length of the longest run of a character. -/
def longestRun
    (c : Char)
    (cs : List Char) :
    Nat :=
  (cs.foldl
    (fun (run, longest) d =>
      let run := if d = c then run + 1 else 0
      (run, max run longest))
    (0, 0)).2

namespace Style

/- The quotes around a literal. -/
def quotes : Style → String
  | .basic => "\""
  | .literal => "'"
  | .block => "\"\"\""
  | .literalBlock => "'''"

/- Whether a literal may hold line ends. -/
def isBlock : Style → Bool
  | .block => true
  | .literalBlock => true
  | _ => false

/- Whether a literal has escapes. -/
def hasEscapes : Style → Bool
  | .basic => true
  | .block => true
  | _ => false

/-
  The style that shows a text best: without escapes if that
  is possible, in double quotes rather than in single ones
  and on one line rather than on several.
-/
def ofText
    (cs : List Char) :
    Style :=
  let coded := cs.any fun c => isControl c && c ≠ '\n'
  let slashed := cs.contains '\\'
  let lined := cs.contains '\n'
  let doubles := longestRun '"' cs
  let singles := longestRun '\x27' cs
  if !coded && !slashed && doubles == 0 && !lined then .basic
  else if !coded && singles == 0 && !lined then .literal
  else if !coded && !slashed && doubles ≤ 2 then .block
  else if !coded && singles ≤ 2 then .literalBlock
  else if lined then .block
  else .basic

end Style

------------------------------------------------------------
-- Writing
------------------------------------------------------------

/- A digit of a number in base sixteen. -/
def upperHexDigit
    (n : Nat) :
    Char :=
  if n < 10 then Char.ofNat (48 + n) else Char.ofNat (55 + n)

/- The escape of a control character by its number. -/
def numberedEscape
    (c : Char) :
    List Char :=
  ['\\', 'u', '0', '0', upperHexDigit (c.toNat / 16),
    upperHexDigit (c.toNat % 16)]

/-
  The characters of a literal with escapes.  So many double
  quotes before these may not be followed by one more as it
  is if that exceeds the number allowed in a row.
-/
def escapeChars
    (style : Style)
    (quotesBefore : Nat) :
    List Char → List Char
  | [] => []
  | c :: rest =>
      let allowed := if style.isBlock then 2 else 0
      if c = '"' then
        if quotesBefore < allowed then
          c :: escapeChars style (quotesBefore + 1) rest
        else '\\' :: c :: escapeChars style 0 rest
      else
        let written : List Char :=
          match c with
          | '\x08' => ['\\', 'b']
          | '\t' => ['\\', 't']
          | '\n' => if style.isBlock then [c] else ['\\', 'n']
          | '\x0c' => ['\\', 'f']
          | '\r' => ['\\', 'r']
          | '\\' => ['\\', '\\']
          | c => if isControl c then numberedEscape c else [c]
        written ++ escapeChars style 0 rest

/-
  A text as a literal, in the style that shows it best.  A
  text of several lines starts on a line of its own.
-/
def spell
    (s : String) :
    String :=
  let style := Style.ofText s.toList
  let startsLine := style.isBlock && s.toList.contains '\n'
  style.quotes ++ (if startsLine then "\n" else "") ++
    (if style.hasEscapes then
      String.ofList (escapeChars style 0 s.toList)
      else s) ++
    style.quotes

end ClientGen.Toml
