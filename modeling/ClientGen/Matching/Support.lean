import ClientGen.Matching.Reader

/-
  Which patterns can be used.

  Key definitions include:
    * `CharSet.check`
    * `Progress`
    * `Pattern.check`
    * `checkPattern`

  Texts are matched in one pass over their bytes.  That can
  not tell where words of all scripts begin and end, and a
  pattern that takes texts for bytes must not match a part
  of a character.
-/

namespace ClientGen.Matching

------------------------------------------------------------
-- Sets
------------------------------------------------------------

/- Whether a character is a single byte. -/
def Literal.isAscii
    (l : Literal) :
    Bool :=
  decide (l.char.toNat < 128)

/- A byte on its own has to be a character. -/
def Literal.check
    (l : Literal)
    (isUnicode : Bool) :
    Except PatternError Unit :=
  if isUnicode || !l.isByte || l.isAscii then .ok ()
  else refuse .partialCharacter l.span

/- In a set of bytes a character has to be a byte as well. -/
def Literal.checkInSet
    (l : Literal)
    (isUnicode : Bool) :
    Except PatternError Unit := do
  l.check isUnicode
  if isUnicode || l.isAscii then .ok ()
  else refuse .unicode l.span

/- In texts of bytes negated sets hold parts of characters. -/
def checkNegated
    (isUnicode isNegated : Bool)
    (span : Span) :
    Except PatternError Unit :=
  if isUnicode || !isNegated then .ok ()
  else refuse .partialCharacter span

/- Categories are of characters and have to be known. -/
def checkCategory
    (isUnicode isKnown : Bool)
    (span : Span) :
    Except PatternError Unit :=
  if !isUnicode then refuse .unicode span
  else if isKnown then .ok ()
  else refuse .unknownCategory span

mutual

/- Whether a set can be used. -/
def CharSet.check
    (isUnicode : Bool) :
    CharSet → Except PatternError Unit
  | .empty _ => .ok ()
  | .literal l => l.checkInSet isUnicode
  | .range _ first last => do
      first.checkInSet isUnicode
      last.checkInSet isUnicode
  | .named span isNegated =>
      checkNegated isUnicode isNegated span
  | .shorthand span isNegated =>
      checkNegated isUnicode isNegated span
  | .category span isKnown =>
      checkCategory isUnicode isKnown span
  | .bracketed span isNegated content => do
      content.check isUnicode
      checkNegated isUnicode isNegated span
  | .union _ parts => checkParts isUnicode parts
  | .combined _ left right => do
      left.check isUnicode
      right.check isUnicode

/- Whether all of some sets can be used. -/
def checkParts
    (isUnicode : Bool) :
    List CharSet → Except PatternError Unit
  | [] => .ok ()
  | s :: rest => do
      s.check isUnicode
      checkParts isUnicode rest

end

------------------------------------------------------------
-- Patterns
------------------------------------------------------------

/-
  What is known in the course of a pattern: whether texts
  are of characters at that point, and whether edges of
  words in all scripts have been asked for.
-/
structure Progress where
  isUnicode : Bool
  hasWordEdges : Bool
  deriving DecidableEq, Repr

/- What is known after a change of flags. -/
def Progress.change
    (p : Progress)
    (change : FlagChange) :
    Progress :=
  { p with isUnicode := change.unicode.getD p.isUnicode }

mutual

/-
  What is known after a pattern, if it can be used.  Changes
  last up to the end of a group.
-/
def Pattern.check
    (before : Progress) :
    Pattern → Except PatternError Progress
  | .empty _ => .ok before
  | .flags _ change => .ok (before.change change)
  | .literal l => do
      l.check before.isUnicode
      .ok before
  | .any span =>
      if before.isUnicode then .ok before
      else refuse .partialCharacter span
  | .edge _ => .ok before
  | .wordEdge _ =>
      .ok { before with
        hasWordEdges :=
          before.hasWordEdges || before.isUnicode }
  | .set s => do
      s.check before.isUnicode
      .ok before
  | .repeated _ p => p.check before
  | .group _ change p => do
      let after ← p.check (before.change change)
      .ok { after with isUnicode := before.isUnicode }
  | .sequence _ parts => checkAll before parts
  | .alternatives _ branches => checkAll before branches

/- The same of patterns one after the other. -/
def checkAll
    (before : Progress) :
    List Pattern → Except PatternError Progress
  | [] => .ok before
  | p :: rest => do
      checkAll (← p.check before) rest

end

/- How deep patterns may nest. -/
def deepestPattern : Nat :=
  250

/- Whether a text is a pattern that can be used. -/
def checkPattern
    (cs : List Char) :
    Except PatternError Unit := do
  let p ← Pattern.ofText cs
  match p.tooDeep? deepestPattern with
  | some span => refuse (.nesting deepestPattern) span
  | none => .ok ()
  let after ← p.check ⟨true, false⟩
  if after.hasWordEdges then .error .wordEdges
  else .ok ()

end ClientGen.Matching
