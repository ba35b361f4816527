import ClientGen.Matching.Escape

/-
  Sets of characters in brackets.

  Key definitions include:
    * `SetOpening`
    * `readOpening`
    * `readNamedSet`
    * `readSetPart`
    * `readBracketed`

  Between the brackets there are characters, ranges of them
  and further sets, and signs that combine all that is
  before them with all that comes after.
-/

namespace ClientGen.Matching

open ClientGen.Text

------------------------------------------------------------
-- Openings
------------------------------------------------------------

/-
  What a set starts with: its bracket and the signs next to
  it, whether it is negated, where its parts start, and the
  parts that would be none anywhere else.
-/
structure SetOpening where
  span : Span
  isNegated : Bool
  place : List Char
  parts : List CharSet
  deriving Repr

/- The character at a place, which stands for itself. -/
def plainSet
    (c : Char)
    (rest : List Char) :
    CharSet :=
  .literal ⟨c, false, ⟨c :: rest, rest⟩⟩

/- Hyphens in front of all else stand for themselves. -/
def leadingHyphens
    (isSpacious : Bool) :
    Nat → List Char → List CharSet × List Char
  | 0, cs => ([], cs)
  | bound + 1, cs =>
      match cs with
      | '-' :: rest =>
          let (parts, after) :=
            leadingHyphens isSpacious bound
              (skipIdle isSpacious rest)
          (plainSet '-' rest :: parts, after)
      | cs => ([], cs)

/-
  What comes after a bracket, and after the sign that makes
  a set negated: hyphens, or one closing bracket.
-/
def readLeading
    (isSpacious : Bool)
    (start : List Char)
    (isNegated : Bool)
    (place : List Char) :
    Except PatternError (SetOpening × List Char) :=
  match leadingHyphens isSpacious place.length place with
  | ([], ']' :: rest) =>
      match skipIdle isSpacious rest with
      | [] => refuse .unclosedSet ⟨start, []⟩
      | after =>
          .ok (⟨⟨start, after⟩, isNegated, place,
            [plainSet ']' rest]⟩, after)
  | ([], after) =>
      .ok (⟨⟨start, after⟩, isNegated, place, []⟩, after)
  | (_, []) => refuse .unclosedSet (.here start)
  | (hyphens, after) =>
      .ok (⟨⟨start, after⟩, isNegated, place, hyphens⟩, after)

/- The opening of a set at the place of its bracket. -/
def readOpening
    (isSpacious : Bool)
    (start : List Char) :
    Except PatternError (SetOpening × List Char) :=
  match skipIdle isSpacious (start.drop 1) with
  | [] => refuse .unclosedSet ⟨start, []⟩
  | '^' :: rest =>
      match skipIdle isSpacious rest with
      | [] => refuse .unclosedSet ⟨start, []⟩
      | place => readLeading isSpacious start true place
  | place => readLeading isSpacious start false place

------------------------------------------------------------
-- Named Sets
------------------------------------------------------------

/- The names of sets. -/
def setNames :
    List String :=
  ["alnum", "alpha", "ascii", "blank", "cntrl", "digit",
    "graph", "lower", "print", "punct", "space", "upper",
    "word", "xdigit"]

/-
  The set that is given by a name between colons, if one is
  after the bracket at a place.
-/
def readNamedSet
    (start : List Char) :
    Option (CharSet × List Char) :=
  match start.drop 1 with
  | ':' :: cs =>
      let isNegated := cs.head? == some '^'
      let cs := if isNegated then cs.drop 1 else cs
      let name := cs.takeWhile (· ≠ ':')
      match cs.dropWhile (· ≠ ':') with
      | ':' :: ']' :: rest =>
          if setNames.contains (String.ofList name) then
            some (.named ⟨start, rest⟩ isNegated, rest)
          else none
      | _ => none
  | _ => none

------------------------------------------------------------
-- Parts
------------------------------------------------------------

/-
  One end of a range, or what stands in its place, in a set
  that has been opened.
-/
def readRangeEnd
    (isSpacious : Bool)
    (opened : Span) :
    List Char → Except PatternError (Escaped × List Char)
  | [] => refuse .unclosedSet opened
  | '\\' :: rest => readEscape isSpacious ('\\' :: rest) rest
  | c :: rest =>
      .ok (.literal ⟨c, false, ⟨c :: rest, rest⟩⟩, rest)

/- The set that an escape stands for, if it is one. -/
def Escaped.toSet : Escaped → Except PatternError CharSet
  | .literal l => .ok (.literal l)
  | .set s => .ok s
  | .edge span => refuse .setEscape span
  | .wordEdge span => refuse .setEscape span

/- The character that an escape stands for, if it is one. -/
def Escaped.toLiteral : Escaped → Except PatternError Literal
  | .literal l => .ok l
  | e => refuse .setRangeEnd e.span

/- The range between two characters in order. -/
def rangeBetween
    (first last : Escaped) :
    Except PatternError CharSet := do
  let a ← first.toLiteral
  let z ← last.toLiteral
  let span : Span := ⟨a.span.start, z.span.stop⟩
  if a.char ≤ z.char then .ok (.range span a z)
  else refuse .setRangeOrder span

/-
  The next character that counts.  A look ahead goes through
  blanks and the sign of a comment, but not its text.
-/
def peekIdle
    (isSpacious : Bool)
    (cs : List Char) :
    Option Char :=
  if isSpacious then
    match cs.dropWhile isBlank with
    | '#' :: comment => (comment.dropWhile isBlank).head?
    | rest => rest.head?
  else cs.head?

/-
  A character or escape, or a range of characters.  A hyphen
  before a closing bracket or another hyphen makes no range.
-/
def readSetPart
    (isSpacious : Bool)
    (opened : Span)
    (cs : List Char) :
    Except PatternError (CharSet × List Char) := do
  let (first, rest) ← readRangeEnd isSpacious opened cs
  match skipIdle isSpacious rest with
  | [] => refuse .unclosedSet opened
  | '-' :: rest =>
      let next := peekIdle isSpacious rest
      if next == some ']' || next == some '-' then
        .ok (← first.toSet, '-' :: rest)
      else
        let (last, rest) ← readRangeEnd isSpacious opened
          (skipIdle isSpacious rest)
        .ok (← rangeBetween first last, rest)
  | rest => .ok (← first.toSet, rest)

------------------------------------------------------------
-- Sets
------------------------------------------------------------

/-
  All that is before a sign that combines sets: what another
  sign has combined, and the parts since, latest first.
-/
def combine
    (before : Option CharSet)
    (place : List Char)
    (parts : List CharSet) :
    CharSet :=
  let right := CharSet.ofParts place parts.reverse
  match before with
  | none => right
  | some left => .combining left right

/- What comes after a sign that combines sets, if any. -/
def afterCombining? : List Char → Option (List Char)
  | '&' :: '&' :: rest => some rest
  | '-' :: '-' :: rest => some rest
  | '~' :: '~' :: rest => some rest
  | _ => none

mutual

/- The set at the place of its bracket. -/
def readBracketed
    (isSpacious : Bool) :
    Nat → List Char →
      Except PatternError (CharSet × List Char)
  | 0, start => refuse .unclosedSet (.first start)
  | bound + 1, start => do
      let (opening, rest) ← readOpening isSpacious start
      let (content, rest) ←
        readSetParts isSpacious opening.span bound none
          opening.place opening.parts.reverse rest
      .ok (.bracketed ⟨start, rest⟩ opening.isNegated content,
        rest)

/-
  The rest of a set up to its closing bracket, after what a
  sign combines it with and the parts since, latest first.
-/
def readSetParts
    (isSpacious : Bool)
    (opened : Span) :
    Nat → Option CharSet → List Char → List CharSet →
      List Char → Except PatternError (CharSet × List Char)
  | 0, _, _, _, _ => refuse .unclosedSet opened
  | bound + 1, before, place, parts, cs =>
      match skipIdle isSpacious cs with
      | [] => refuse .unclosedSet opened
      | ']' :: rest => .ok (combine before place parts, rest)
      | '[' :: rest => do
          let start := '[' :: rest
          let (part, rest) ←
            match readNamedSet start with
            | some read => .ok read
            | none => readBracketed isSpacious bound start
          readSetParts isSpacious opened bound before place
            (part :: parts) rest
      | cs =>
          match afterCombining? cs with
          | some rest =>
              readSetParts isSpacious opened bound
                (some (combine before place parts)) rest []
                rest
          | none => do
              let (part, rest) ←
                readSetPart isSpacious opened cs
              readSetParts isSpacious opened bound before
                place (part :: parts) rest

end

end ClientGen.Matching
