import ClientGen.Matching.Span
import ClientGen.Text.Lines

/-
  Errors in patterns as they are shown: the pattern, and
  under each of its lines marks for the parts that an error
  is about.

  Key definitions include:
    * `Position`
    * `markLine`
    * `excerpt`
    * `PatternError.messages`

  The lines of a pattern that has several are numbered, and
  parts that go over several lines are told in words.
-/

namespace ClientGen.Matching

open ClientGen.Text

------------------------------------------------------------
-- Positions
------------------------------------------------------------

/- A line and the number of characters before on it. -/
structure Position where
  line : Nat
  column : Nat
  deriving DecidableEq, Repr

/- The position after one more character. -/
def Position.next
    (p : Position)
    (c : Char) :
    Position :=
  if c = '\n' then ⟨p.line + 1, 0⟩
  else ⟨p.line, p.column + 1⟩

/- The position of a place in a text. -/
def Position.ofPlace
    (text place : List Char) :
    Position :=
  (text.take (text.length - place.length)).foldl
    Position.next ⟨0, 0⟩

/- The positions where a part of a text starts and stops. -/
structure Extent where
  start : Position
  stop : Position
  deriving DecidableEq, Repr

namespace Extent

/- The positions of a part of a text. -/
def ofSpan
    (text : List Char)
    (span : Span) :
    Extent where
  start := .ofPlace text span.start
  stop := .ofPlace text span.stop

/- Whether a part is on that line alone. -/
def isOnLine
    (line : Nat)
    (e : Extent) :
    Bool :=
  e.start.line == line && e.stop.line == line

/- A part over several lines, in words. -/
def description
    (e : Extent) :
    String :=
  "on line " ++ toString (e.start.line + 1) ++
    " (column " ++ toString (e.start.column + 1) ++
    ") through line " ++ toString (e.stop.line + 1) ++
    " (column " ++ toString e.stop.column ++ ")"

end Extent

------------------------------------------------------------
-- Marks
------------------------------------------------------------

/- So many copies of a character. -/
def copies
    (n : Nat)
    (c : Char) :
    String :=
  String.ofList (List.replicate n c)

/-
  The marks for parts of one line, in order, of which so
  many characters are there.  Each part has a mark at least.
-/
def markLine
    (column : Nat) :
    List Extent → String
  | [] => ""
  | e :: rest =>
      let gap := e.start.column - column
      let width := max 1 (e.stop.column - e.start.column)
      copies gap ' ' ++ copies width '^' ++
        markLine (column + gap + width) rest

/- A text with blanks in front, up to a width. -/
def padded
    (width : Nat)
    (s : String) :
    String :=
  copies (width - s.length) ' ' ++ s

------------------------------------------------------------
-- Excerpts
------------------------------------------------------------

/-
  The number of lines of a text; after a line feed at the
  end there is one more.
-/
def lineCount
    (text : List Char) :
    Nat :=
  (lines text).length +
    (if text.getLast? == some '\n' then 1 else 0)

/-
  One line of several or of one, and the marks under it if
  there are any.
-/
def excerptLine
    (numberWidth : Nat)
    (extents : List Extent)
    (index : Nat)
    (line : List Char) :
    List String :=
  let margin :=
    if numberWidth = 0 then "    "
    else padded numberWidth (toString (index + 1)) ++ ": "
  let shown := margin ++ String.ofList line
  match extents.filter (Extent.isOnLine index) with
  | [] => [shown]
  | marked =>
      [shown, copies margin.length ' ' ++ markLine 0 marked]

/- All lines with the marks under them. -/
def excerpt
    (text : List Char)
    (extents : List Extent) :
    List String :=
  let count := lineCount text
  let numberWidth :=
    if count ≤ 1 then 0 else (toString count).length
  ((lines text).zipIdx.map fun (line, index) =>
    excerptLine numberWidth extents index line).flatten

/- The line around an excerpt of several lines. -/
def divider : String :=
  copies 79 '~'

/- What is shown of parts of a pattern that are at fault. -/
def faultLines
    (text : List Char)
    (fault : Fault)
    (spans : List Span) :
    List String :=
  let extents := spans.map (Extent.ofSpan text)
  let shown := excerpt text extents
  let long := extents.filter fun e =>
    e.start.line ≠ e.stop.line
  let body :=
    if text.contains '\n' then
      divider :: shown ++ divider ::
        long.map Extent.description
    else shown
  "regex parse error:" :: body ++
    ["error: " ++ fault.message]

/-
  The wording of an error in a pattern, and after it its
  causes.
-/
def PatternError.messages
    (text : List Char) :
    PatternError → List String
  | .malformed fault span earlier =>
      ["error building NFA", "error parsing regex",
        joinWith "\n"
          (faultLines text fault (earlier.toList ++ [span]))]
  | .wordEdges =>
      ["unsupported regex feature for DFAs: " ++
        "cannot build DFAs for regexes with Unicode word " ++
        "boundaries; switch to ASCII word boundaries, or " ++
        "heuristically enable Unicode word boundaries or " ++
        "use a different regex engine"]

end ClientGen.Matching
