import ClientGen.Matching.Span

/-
  Patterns that texts are matched against.

  Key definitions include:
    * `Literal`
    * `CharSet`
    * `FlagChange`
    * `Pattern`
    * `CharSet.tooDeep?`
    * `Pattern.tooDeep?`

  A pattern is kept as far as it decides whether it can be
  used, so that the kinds of lines, words and letters that
  are asked for are not told apart.  Each part knows which
  part of the text it was read from.
-/

namespace ClientGen.Matching

------------------------------------------------------------
-- Sets
------------------------------------------------------------

/-
  A character that stands for itself.  One that is written
  as two hexadecimal digits is a byte where texts are taken
  for bytes.
-/
structure Literal where
  char : Char
  isByte : Bool
  span : Span
  deriving DecidableEq, Repr

/-
  A set of characters: what is between brackets, and what
  sets are made of.  A category is one of Unicode, and only
  some letters name one.
-/
inductive CharSet where
  | empty (span : Span)
  | literal (l : Literal)
  | range (span : Span) (first last : Literal)
  | named (span : Span) (isNegated : Bool)
  | shorthand (span : Span) (isNegated : Bool)
  | category (span : Span) (isKnown : Bool)
  | bracketed
      (span : Span)
      (isNegated : Bool)
      (content : CharSet)
  | union (span : Span) (parts : List CharSet)
  | combined (span : Span) (left right : CharSet)
  deriving Repr, Inhabited

namespace CharSet

/- The text of a set. -/
def span : CharSet → Span
  | .empty span => span
  | .literal l => l.span
  | .range span _ _ => span
  | .named span _ => span
  | .shorthand span _ => span
  | .category span _ => span
  | .bracketed span _ _ => span
  | .union span _ => span
  | .combined span _ _ => span

/-
  The set of all that is in one of some sets, which come
  from that place on.
-/
def ofParts
    (place : List Char) :
    List CharSet → CharSet
  | [] => .empty (.here place)
  | [s] => s
  | first :: rest =>
      let last := (rest.getLast?.getD first).span
      .union ⟨first.span.start, last.stop⟩ (first :: rest)

/- The set that a sign makes of what is on both sides. -/
def combining
    (left right : CharSet) :
    CharSet :=
  .combined ⟨left.span.start, right.span.stop⟩ left right

end CharSet

------------------------------------------------------------
-- Patterns
------------------------------------------------------------

/-
  Which ways of reading and matching are turned on or off,
  and which are left as they are: blanks without a meaning,
  and texts of characters rather than bytes.
-/
structure FlagChange where
  spacious : Option Bool
  unicode : Option Bool
  deriving DecidableEq, Repr

/- No change at all. -/
def FlagChange.none : FlagChange where
  spacious := Option.none
  unicode := Option.none

/-
  A pattern.  An edge is the start or end of a line or text,
  and a word edge the start or end of a word.
-/
inductive Pattern where
  | empty (span : Span)
  | flags (span : Span) (change : FlagChange)
  | literal (l : Literal)
  | any (span : Span)
  | edge (span : Span)
  | wordEdge (span : Span)
  | set (s : CharSet)
  | repeated (span : Span) (p : Pattern)
  | group (span : Span) (change : FlagChange) (p : Pattern)
  | sequence (span : Span) (parts : List Pattern)
  | alternatives (span : Span) (branches : List Pattern)
  deriving Repr, Inhabited

namespace Pattern

/- The text of a pattern. -/
def span : Pattern → Span
  | .empty span => span
  | .flags span _ => span
  | .literal l => l.span
  | .any span => span
  | .edge span => span
  | .wordEdge span => span
  | .set s => s.span
  | .repeated span _ => span
  | .group span _ _ => span
  | .sequence span _ => span
  | .alternatives span _ => span

/- Patterns one after the other. -/
def ofSequence
    (span : Span) :
    List Pattern → Pattern
  | [] => .empty span
  | [p] => p
  | parts => .sequence span parts

/- Patterns one of which is to match. -/
def ofBranches
    (span : Span) :
    List Pattern → Pattern
  | [] => .empty span
  | [p] => p
  | branches => .alternatives span branches

end Pattern

------------------------------------------------------------
-- Nesting
------------------------------------------------------------

mutual

/- The first set that is in more than so many others. -/
def CharSet.tooDeep?
    (levels : Nat) :
    CharSet → Option Span
  | .bracketed span _ content =>
      if levels = 0 then some span
      else content.tooDeep? (levels - 1)
  | .union span parts =>
      if levels = 0 then some span
      else partTooDeep? (levels - 1) parts
  | .combined span left right =>
      if levels = 0 then some span
      else
        (left.tooDeep? (levels - 1)).or
          (right.tooDeep? (levels - 1))
  | _ => none

/- The first of some sets and their parts that is. -/
def partTooDeep?
    (levels : Nat) :
    List CharSet → Option Span
  | [] => none
  | s :: rest =>
      (s.tooDeep? levels).or (partTooDeep? levels rest)

end

mutual

/- The first pattern or set in more than so many others. -/
def Pattern.tooDeep?
    (levels : Nat) :
    Pattern → Option Span
  | .set s => s.tooDeep? levels
  | .repeated span p =>
      if levels = 0 then some span
      else p.tooDeep? (levels - 1)
  | .group span _ p =>
      if levels = 0 then some span
      else p.tooDeep? (levels - 1)
  | .sequence span parts =>
      if levels = 0 then some span
      else anyTooDeep? (levels - 1) parts
  | .alternatives span branches =>
      if levels = 0 then some span
      else anyTooDeep? (levels - 1) branches
  | _ => none

/- The first of some patterns and their parts that is. -/
def anyTooDeep?
    (levels : Nat) :
    List Pattern → Option Span
  | [] => none
  | p :: rest =>
      (p.tooDeep? levels).or (anyTooDeep? levels rest)

end

end ClientGen.Matching
