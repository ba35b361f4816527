/-
  Parts of a text, and what is wrong with them.

  Key definitions include:
    * `Span`
    * `Fault`
    * `Fault.message`
    * `PatternError`
    * `refuse`

  A place in a text is given by all that comes after it, and
  a part of a text by the places where it starts and stops.
-/

namespace ClientGen.Matching

------------------------------------------------------------
-- Spans
------------------------------------------------------------

/- A part of a text: what comes after its start and stop. -/
structure Span where
  start : List Char
  stop : List Char
  deriving DecidableEq, Repr, Inhabited

namespace Span

/- The part without any characters at a place. -/
def here
    (cs : List Char) :
    Span where
  start := cs
  stop := cs

/- The first character after a place. -/
def first
    (cs : List Char) :
    Span where
  start := cs
  stop := cs.drop 1

end Span

------------------------------------------------------------
-- Faults
------------------------------------------------------------

/- What can be wrong with a part of a pattern. -/
inductive Fault where
  | setEscape
  | setRangeOrder
  | setRangeEnd
  | unclosedSet
  | number
  | hexDigit
  | hexValue
  | escapeEnd
  | escape
  | danglingHyphen
  | duplicateFlag
  | repeatedHyphen
  | flagEnd
  | flag
  | duplicateName
  | emptyName
  | nameCharacter
  | nameEnd
  | unclosedGroup
  | unopenedGroup
  | nesting (limit : Nat)
  | count
  | unclosedCount
  | nothingRepeated
  | unclosedWordEdge
  | wordEdgeEnd
  | category
  | backreference
  | lookAround
  | unicode
  | partialCharacter
  | unknownCategory
  deriving DecidableEq, Repr

/- The wording of a fault. -/
def Fault.message : Fault → String
  | .setEscape =>
      "invalid escape sequence found in character class"
  | .setRangeOrder =>
      "invalid character class range, " ++
        "the start must be <= the end"
  | .setRangeEnd =>
      "invalid range boundary, must be a literal"
  | .unclosedSet => "unclosed character class"
  | .number => "decimal literal invalid"
  | .hexDigit => "invalid hexadecimal digit"
  | .hexValue =>
      "hexadecimal literal is not a Unicode scalar value"
  | .escapeEnd =>
      "incomplete escape sequence, " ++
        "reached end of pattern prematurely"
  | .escape => "unrecognized escape sequence"
  | .danglingHyphen => "dangling flag negation operator"
  | .duplicateFlag => "duplicate flag"
  | .repeatedHyphen => "flag negation operator repeated"
  | .flagEnd => "expected flag but got end of regex"
  | .flag => "unrecognized flag"
  | .duplicateName => "duplicate capture group name"
  | .emptyName => "empty capture group name"
  | .nameCharacter => "invalid capture group character"
  | .nameEnd => "unclosed capture group name"
  | .unclosedGroup => "unclosed group"
  | .unopenedGroup => "unopened group"
  | .nesting limit =>
      "exceed the maximum number of nested " ++
        "parentheses/brackets (" ++ toString limit ++ ")"
  | .count =>
      "repetition quantifier expects a valid decimal"
  | .unclosedCount => "unclosed counted repetition"
  | .nothingRepeated =>
      "repetition operator missing expression"
  | .unclosedWordEdge =>
      "special word boundary assertion is either unclosed " ++
        "or contains an invalid character"
  | .wordEdgeEnd =>
      "found either the beginning of a special word " ++
        "boundary or a bounded repetition on a \\b with an " ++
        "opening brace, but no closing brace"
  | .category => "invalid Unicode character class"
  | .backreference => "backreferences are not supported"
  | .lookAround =>
      "look-around, including look-ahead and look-behind, " ++
        "is not supported"
  | .unicode => "Unicode not allowed here"
  | .partialCharacter => "pattern can match invalid UTF-8"
  | .unknownCategory => "Unicode property not found"

------------------------------------------------------------
-- Errors
------------------------------------------------------------

/-
  Why a pattern can not be used: a part of it is at fault,
  in view of an earlier part if there is one, or it asks for
  edges of words in all scripts.
-/
inductive PatternError where
  | malformed
      (fault : Fault)
      (span : Span)
      (earlier : Option Span)
  | wordEdges
  deriving DecidableEq, Repr

/- A pattern is refused because of one part. -/
def refuse
    {α : Type}
    (fault : Fault)
    (span : Span) :
    Except PatternError α :=
  .error (.malformed fault span none)

end ClientGen.Matching
