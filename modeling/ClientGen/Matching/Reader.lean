import ClientGen.Matching.Bracket
import ClientGen.Text.Letter

/-
  Reading patterns.

  Key definitions include:
    * `Mode`
    * `readFlags`
    * `readGroupStart`
    * `readBranches`
    * `Pattern.ofText`

  A pattern has branches, and these have parts.  Reading
  takes a bound on the number of steps: each character takes
  three at most.
-/

namespace ClientGen.Matching

open ClientGen.Text

------------------------------------------------------------
-- Modes
------------------------------------------------------------

/-
  How a pattern is being read: whether blanks have no
  meaning, and the names of groups so far.
-/
structure Mode where
  isSpacious : Bool
  names : List (String × Span)
  deriving DecidableEq, Repr

/- The mode after a change of flags. -/
def Mode.change
    (m : Mode)
    (change : FlagChange) :
    Mode :=
  { m with
    isSpacious := change.spacious.getD m.isSpacious }

------------------------------------------------------------
-- Flags
------------------------------------------------------------

/- A flag or a hyphen, and the place where it is written. -/
abbrev FlagSign :=
  Char × Span

/- Why a sign may not come after others. -/
def checkFlagSign
    (earlier : List FlagSign)
    (c : Char)
    (span : Span) :
    Except PatternError Unit :=
  if !("imsUuRx-".contains c) then refuse .flag span
  else
    match earlier.lookup c with
    | none => .ok ()
    | some original =>
        .error (.malformed
          (if c = '-' then .repeatedHyphen else .duplicateFlag)
          span (some original))

/- The signs up to the one that ends them. -/
def readFlagSigns
    (earlier : List FlagSign) :
    List Char →
      Except PatternError (List FlagSign × List Char)
  | [] => refuse .flagEnd (.here [])
  | c :: rest => do
      if c = ':' || c = ')' then .ok (earlier, c :: rest)
      else
        let span := Span.first (c :: rest)
        checkFlagSign earlier c span
        readFlagSigns (earlier ++ [(c, span)]) rest

/- Whether a flag is turned on, or off after a hyphen. -/
def flagState?
    (flag : Char)
    (signs : List FlagSign) :
    Option Bool :=
  if (signs.lookup flag).isSome then
    some
      ((signs.takeWhile (·.1 ≠ '-')).lookup flag).isSome
  else none

/- The change that signs ask for. -/
def changeOf
    (signs : List FlagSign) :
    Except PatternError FlagChange :=
  match signs.getLast? with
  | some ('-', span) => refuse .danglingHyphen span
  | _ => .ok ⟨flagState? 'x' signs, flagState? 'u' signs⟩

------------------------------------------------------------
-- Groups
------------------------------------------------------------

/- Whether a character may be in the name of a group. -/
def isNameCharacter
    (isFirst : Bool)
    (c : Char) :
    Bool :=
  if isFirst then c = '_' || isAlphabetic c
  else "_.[]".contains c || isAlphanumeric c

/- The place in a name of what may not be in it. -/
def nameFault?
    (isFirst : Bool) :
    List Char → Option (List Char)
  | [] => none
  | '>' :: _ => none
  | c :: rest =>
      if isNameCharacter isFirst c then nameFault? false rest
      else some (c :: rest)

/- What a group or a change of flags starts with. -/
inductive GroupStart where
  | group
      (change : FlagChange)
      (names : List (String × Span))
  | flags (change : FlagChange)
  deriving DecidableEq, Repr

/- The name of a group, which no other group has. -/
def readGroupName
    (names : List (String × Span))
    (cs : List Char) :
    Except PatternError (GroupStart × List Char) :=
  match cs, nameFault? true cs, cs.dropWhile (· ≠ '>') with
  | _, some place, _ => refuse .nameCharacter (.first place)
  | _, _, [] => refuse .nameEnd (.here [])
  | '>' :: rest, _, _ =>
      refuse .emptyName (.here ('>' :: rest))
  | cs, _, stop =>
      let name := String.ofList (cs.takeWhile (· ≠ '>'))
      match names.lookup name with
      | some original =>
          .error (.malformed .duplicateName ⟨cs, stop⟩
            (some original))
      | none =>
          .ok (.group .none (names ++ [(name, ⟨cs, stop⟩)]),
            stop.drop 1)

/- What comes after a question mark at that place. -/
def readFlags
    (names : List (String × Span))
    (mark cs : List Char) :
    Except PatternError (GroupStart × List Char) := do
  let (signs, rest) ← readFlagSigns [] cs
  let change ← changeOf signs
  if rest.head? == some ')' then
    if signs.isEmpty then refuse .nothingRepeated (.here mark)
    else .ok (.flags change, rest.drop 1)
  else .ok (.group change names, rest.drop 1)

/-
  What comes after an opening parenthesis.  A pattern can
  not look ahead or behind.
-/
def readGroupStart
    (mode : Mode)
    (start : List Char) :
    Except PatternError (GroupStart × List Char) :=
  match skipIdle mode.isSpacious (start.drop 1) with
  | '?' :: '=' :: rest => refuse .lookAround ⟨start, rest⟩
  | '?' :: '!' :: rest => refuse .lookAround ⟨start, rest⟩
  | '?' :: '<' :: '=' :: rest =>
      refuse .lookAround ⟨start, rest⟩
  | '?' :: '<' :: '!' :: rest =>
      refuse .lookAround ⟨start, rest⟩
  | '?' :: 'P' :: '<' :: rest => readGroupName mode.names rest
  | '?' :: '<' :: rest => readGroupName mode.names rest
  | ['?'] => refuse .unclosedGroup (.first start)
  | '?' :: rest => readFlags mode.names ('?' :: rest) rest
  | rest => .ok (.group .none mode.names, rest)

------------------------------------------------------------
-- Repetitions
------------------------------------------------------------

/- What comes after the sign of a repetition. -/
def afterRepetition : List Char → List Char
  | '?' :: rest => rest
  | rest => rest

/-
  The latest part, if there is one that can be repeated by
  the sign at a place.
-/
def lastRepeatable
    (sign : List Char) :
    List Pattern →
      Except PatternError (Pattern × List Pattern)
  | [] => refuse .nothingRepeated (.here sign)
  | .flags _ _ :: _ => refuse .nothingRepeated (.here sign)
  | p :: earlier => .ok (p, earlier)

/- The latest part is repeated. -/
def repeatLast
    (sign : List Char)
    (parts : List Pattern) :
    Except PatternError (List Pattern × List Char) := do
  let (p, earlier) ← lastRepeatable sign parts
  let rest := afterRepetition (sign.drop 1)
  .ok (.repeated ⟨p.span.start, rest⟩ p :: earlier, rest)

/- The number up to which repetitions are counted. -/
def highestCount : Nat :=
  4294967295

/-
  The digits of a count, with those places after which no
  digit follows.
-/
def countDigits
    (isSpacious : Bool)
    (cs : List Char) :
    List Char × List Char :=
  let digits :=
    (places isSpacious (cs.length + 1) cs).takeWhile
      fun place => place.head?.any Char.isDigit
  match digits.getLast? with
  | none => ([], cs)
  | some last =>
      (digits.filterMap List.head?,
        skipIdle isSpacious (last.drop 1))

/- A count after a brace, which is never closed. -/
def refuseCount
    {α : Type}
    (isSpacious : Bool)
    (brace : List Char) :
    Except PatternError α :=
  let first :=
    (skipIdle isSpacious (brace.drop 1)).dropWhile isBlank
  let (digits, stop) := countDigits isSpacious first
  let n := digits.foldl (fun n c => n * 10 + (c.toNat - 48)) 0
  match stop.dropWhile isBlank with
  | [] => refuse .unclosedCount ⟨brace, []⟩
  | rest =>
      if digits.isEmpty then refuse .count ⟨first, stop⟩
      else if highestCount < n then
        refuse .number ⟨first, stop⟩
      else refuse .unclosedCount ⟨brace, rest⟩

------------------------------------------------------------
-- Parts
------------------------------------------------------------

/- The pattern that an escape stands for. -/
def Escaped.pattern : Escaped → Pattern
  | .literal l => .literal l
  | .set s => .set s
  | .edge span => .edge span
  | .wordEdge span => .wordEdge span

/- A part that is a single sign or an escape. -/
def readSign
    (isSpacious : Bool)
    (start : List Char)
    (c : Char)
    (rest : List Char) :
    Except PatternError (Pattern × List Char) :=
  let span : Span := ⟨start, rest⟩
  match c with
  | '\\' => do
      let (e, rest) ← readEscape isSpacious start rest
      .ok (e.pattern, rest)
  | '.' => .ok (.any span, rest)
  | '^' => .ok (.edge span, rest)
  | '$' => .ok (.edge span, rest)
  | c => .ok (.literal ⟨c, false, span⟩, rest)

------------------------------------------------------------
-- Patterns
------------------------------------------------------------

/- What has been read, how to go on, and what comes after. -/
abbrev PatternRead :=
  Except PatternError (List Pattern × Mode × List Char)

mutual

/- Branches up to a closing parenthesis or the end. -/
def readBranches :
    Nat → Mode → List Char → PatternRead
  | 0, _, cs => refuse .unclosedGroup (.here cs)
  | bound + 1, mode, cs => do
      let (parts, mode, rest) ← readParts bound mode [] cs
      let branch := Pattern.ofSequence ⟨cs, rest⟩ parts
      match rest with
      | '|' :: rest =>
          let (branches, mode, rest) ←
            readBranches bound mode rest
          .ok (branch :: branches, mode, rest)
      | rest => .ok ([branch], mode, rest)

/- Parts after those there are, which are latest first. -/
def readParts :
    Nat → Mode → List Pattern → List Char → PatternRead
  | 0, _, _, cs => refuse .unclosedGroup (.here cs)
  | bound + 1, mode, parts, cs =>
      match skipIdle mode.isSpacious cs with
      | [] => .ok (parts.reverse, mode, [])
      | ')' :: rest => .ok (parts.reverse, mode, ')' :: rest)
      | '|' :: rest => .ok (parts.reverse, mode, '|' :: rest)
      | '(' :: rest => do
          let start := '(' :: rest
          let (opening, inside) ← readGroupStart mode start
          match opening with
          | .flags change =>
              readParts bound (mode.change change)
                (.flags ⟨start, inside⟩ change :: parts) inside
          | .group change names =>
              let (branches, inner, stop) ←
                readBranches bound
                  ({ mode with names }.change change) inside
              match stop with
              | ')' :: rest =>
                  let content :=
                    Pattern.ofBranches ⟨inside, stop⟩ branches
                  readParts bound
                    { mode with names := inner.names }
                    (.group ⟨start, rest⟩ change content ::
                      parts)
                    rest
              | _ => refuse .unclosedGroup (.first start)
      | '[' :: rest => do
          let (s, rest) ←
            readBracketed mode.isSpacious bound ('[' :: rest)
          readParts bound mode (.set s :: parts) rest
      | c :: rest => do
          let start := c :: rest
          if c = '?' || c = '*' || c = '+' then
            let (parts, rest) ← repeatLast start parts
            readParts bound mode parts rest
          else if c = '\x7b' then
            let _ ← lastRepeatable start parts
            refuseCount mode.isSpacious start
          else
            let (part, rest) ←
              readSign mode.isSpacious start c rest
            readParts bound mode (part :: parts) rest

end

/- The pattern that a text writes. -/
def Pattern.ofText
    (cs : List Char) :
    Except PatternError Pattern := do
  let (branches, _, rest) ←
    readBranches (3 * (cs.length + 1)) ⟨false, []⟩ cs
  match rest with
  | [] => .ok (ofBranches ⟨cs, []⟩ branches)
  | rest => refuse .unopenedGroup (.first rest)

end ClientGen.Matching
