import ClientGen.Matching.Pattern
import ClientGen.Text.Blank
import ClientGen.Text.Hexadecimal

/-
  What a backslash stands for in a pattern.

  Key definitions include:
    * `skipIdle`
    * `places`
    * `Escaped`
    * `readEscape`

  A pattern stands between braces and ends where they close.
  It holds no closing brace, so that no escape has a value
  in braces, and an opening one is out of place.
-/

namespace ClientGen.Matching

open ClientGen.Text

------------------------------------------------------------
-- Blanks
------------------------------------------------------------

/-
  A text without the blanks and comments in front, of which
  the first comment may have begun.
-/
def afterIdle
    (inComment : Bool) :
    List Char → List Char
  | [] => []
  | c :: rest =>
      if inComment then afterIdle (c ≠ '\n') rest
      else if isBlank c then afterIdle false rest
      else if c = '#' then afterIdle true rest
      else c :: rest

/- A text without what has no meaning in front. -/
def skipIdle
    (isSpacious : Bool)
    (cs : List Char) :
    List Char :=
  if isSpacious then afterIdle false cs else cs

/- The places of the characters that have a meaning. -/
def places
    (isSpacious : Bool) :
    Nat → List Char → List (List Char)
  | 0, _ => []
  | bound + 1, cs =>
      match skipIdle isSpacious cs with
      | [] => []
      | c :: rest =>
          (c :: rest) :: places isSpacious bound rest

------------------------------------------------------------
-- Numbers
------------------------------------------------------------

/- What an escape stands for. -/
inductive Escaped where
  | literal (l : Literal)
  | set (s : CharSet)
  | edge (span : Span)
  | wordEdge (span : Span)
  deriving Repr

/- The text of an escape. -/
def Escaped.span : Escaped → Span
  | .literal l => l.span
  | .set s => s.span
  | .edge span => span
  | .wordEdge span => span

/- Whether a hexadecimal digit is at a place. -/
def isHexPlace : List Char → Bool
  | [] => false
  | c :: _ => (hexDigit? c).isSome

/- The number that so many more hexadecimal digits write. -/
def readHexDigits
    (isSpacious : Bool) :
    Nat → Nat → List Char →
      Except PatternError (Nat × List Char)
  | 0, n, cs => .ok (n, cs)
  | _ + 1, _, [] => refuse .escapeEnd (.here [])
  | width + 1, n, c :: rest =>
      match hexDigit? c with
      | none => refuse .hexDigit (.first (c :: rest))
      | some digit =>
          readHexDigits isSpacious width (n * 16 + digit)
            (skipIdle isSpacious rest)

/- Digits after a brace, which is never closed. -/
def refuseBraced
    {α : Type}
    (isSpacious : Bool)
    (brace : List Char) :
    Except PatternError α :=
  let digits :=
    places isSpacious brace.length (brace.drop 1)
  match digits.find? (!isHexPlace ·) with
  | some place => refuse .hexDigit (.first place)
  | none => refuse .escapeEnd ⟨brace, []⟩

/-
  The character with a number of so many digits, after the
  place of its backslash.
-/
def readNumbered
    (isSpacious : Bool)
    (width : Nat)
    (start cs : List Char) :
    Except PatternError (Escaped × List Char) :=
  match skipIdle isSpacious cs with
  | '\x7b' :: rest =>
      refuseBraced isSpacious ('\x7b' :: rest)
  | digits => do
      let (n, rest) ← readHexDigits isSpacious width 0 digits
      match scalarChar? n with
      | none => refuse .hexValue ⟨digits, rest⟩
      | some c =>
          .ok (.literal ⟨c, width == 2, ⟨start, rest⟩⟩, rest)

------------------------------------------------------------
-- Categories
------------------------------------------------------------

/- Whether a letter names a category of Unicode. -/
def namesCategory
    (c : Char) :
    Bool :=
  "CLMNPSZclmnpsz".contains c

/- The category that a letter names. -/
def readCategory
    (isSpacious : Bool)
    (start cs : List Char) :
    Except PatternError (Escaped × List Char) :=
  match skipIdle isSpacious cs with
  | [] => refuse .escapeEnd (.here [])
  | '\x7b' :: _ => refuse .escapeEnd (.here [])
  | '\\' :: rest => refuse .category (.first ('\\' :: rest))
  | c :: rest =>
      let rest := skipIdle isSpacious rest
      .ok (.set (.category ⟨start, rest⟩ (namesCategory c)),
        rest)

------------------------------------------------------------
-- Edges of Words
------------------------------------------------------------

/- Whether the kind of an edge may be written on there. -/
def isKindPlace : List Char → Bool
  | [] => false
  | c :: _ => c.isAlpha || c = '-'

/-
  After an edge of words its kind can be in braces.  They
  are not closed, so that nothing but a number may follow.
-/
def checkWordEdge
    (isSpacious : Bool)
    (start : List Char) :
    List Char → Except PatternError Unit
  | '\x7b' :: rest =>
      let brace := '\x7b' :: rest
      match places isSpacious brace.length rest with
      | [] => refuse .wordEdgeEnd ⟨start, []⟩
      | place :: more =>
          if isKindPlace place then
            let stop := (more.find? (!isKindPlace ·)).getD []
            refuse .unclosedWordEdge ⟨brace, stop⟩
          else .ok ()
  | _ => .ok ()

------------------------------------------------------------
-- Escapes
------------------------------------------------------------

/- Whether a backslash takes the meaning of a character. -/
def isQuotable
    (c : Char) :
    Bool :=
  decide (c.toNat < 128) && !c.isAlphanum && c ≠ '<' && c ≠ '>'

/- What a letter or a sign after a backslash stands for. -/
def escapedSign?
    (span : Span) :
    Char → Option Escaped
  | 'a' => some (.literal ⟨'\x07', false, span⟩)
  | 'f' => some (.literal ⟨'\x0c', false, span⟩)
  | 't' => some (.literal ⟨'\t', false, span⟩)
  | 'n' => some (.literal ⟨'\n', false, span⟩)
  | 'r' => some (.literal ⟨'\r', false, span⟩)
  | 'v' => some (.literal ⟨'\x0b', false, span⟩)
  | 'd' => some (.set (.shorthand span false))
  | 's' => some (.set (.shorthand span false))
  | 'w' => some (.set (.shorthand span false))
  | 'D' => some (.set (.shorthand span true))
  | 'S' => some (.set (.shorthand span true))
  | 'W' => some (.set (.shorthand span true))
  | 'A' => some (.edge span)
  | 'z' => some (.edge span)
  | 'b' => some (.wordEdge span)
  | 'B' => some (.wordEdge span)
  | '<' => some (.wordEdge span)
  | '>' => some (.wordEdge span)
  | c =>
      if isQuotable c then some (.literal ⟨c, false, span⟩)
      else none

/- The escape at a place, whose backslash has been read. -/
def readEscape
    (isSpacious : Bool)
    (start : List Char) :
    List Char → Except PatternError (Escaped × List Char)
  | [] => refuse .escapeEnd ⟨start, []⟩
  | 'x' :: rest => readNumbered isSpacious 2 start rest
  | 'u' :: rest => readNumbered isSpacious 4 start rest
  | 'U' :: rest => readNumbered isSpacious 8 start rest
  | 'p' :: rest => readCategory isSpacious start rest
  | 'P' :: rest => readCategory isSpacious start rest
  | c :: rest => do
      if c.isDigit then
        refuse .backreference ⟨start, rest⟩
      else
        if c = 'b' then checkWordEdge isSpacious start rest
        match escapedSign? ⟨start, rest⟩ c with
        | some e => .ok (e, rest)
        | none => refuse .escape ⟨start, rest⟩

end ClientGen.Matching
