import ClientGen.Java.Body
import ClientGen.Proofs.Code.Variables

/-
  Code clause by clause: what ends in a semicolon, and heads
  with blocks of further clauses in braces.

  Main declarations include:
    * `Clause`
    * `ClauseReader.take`
    * `clausesOf`
    * `Code.Comprises`
    * `Comprises.statement`
    * `Comprises.block`
    * `numeral?`

  Tokens are taken one at a time.  A reader keeps the tokens
  of the clause it is in, the clauses of the block, and what
  it was in the middle of when each block was opened.
-/

namespace ClientGen.Java

open Code

------------------------------------------------------------
-- Clauses
------------------------------------------------------------

/- Tokens up to a semicolon, or a head and its block. -/
inductive Clause where
  | simple (tokens : List Token)
  | braced (head : List Token) (body : List Clause)
  deriving Repr

/-
  A block that has been opened: its head and the clauses in
  front of it, last first.
-/
structure OpenBlock where
  head : List Token
  before : List Clause
  deriving Repr

/-
  What has been read: the tokens of the clause at hand and
  the clauses of the block, last first, and all blocks that
  are open, innermost first.
-/
structure ClauseReader where
  pending : List Token
  done : List Clause
  opened : List OpenBlock
  deriving Repr

namespace ClauseReader

/- Nothing has been read. -/
def start :
    ClauseReader :=
  ⟨[], [], []⟩

/- Take a token; a block is closed at the end of a clause. -/
def take
    (r : ClauseReader)
    (t : Token) :
    Option ClauseReader :=
  if t = .symbol ';' then
    some { r with
      pending := []
      done := .simple r.pending.reverse :: r.done }
  else if t = .symbol '\x7b' then
    some ⟨[], [], ⟨r.pending.reverse, r.done⟩ :: r.opened⟩
  else if t = .symbol '\x7d' then
    match r.pending, r.opened with
    | [], b :: outer =>
        some ⟨[], .braced b.head r.done.reverse :: b.before,
          outer⟩
    | _, _ => none
  else some { r with pending := t :: r.pending }

end ClauseReader

/- The clauses of tokens that leave nothing open. -/
def clausesOf
    (ts : List Token) :
    Option (List Clause) :=
  match ts.foldlM ClauseReader.take .start with
  | some ⟨[], done, []⟩ => some done.reverse
  | _ => none

/- The clauses of code. -/
def Code.clauses
    (code : Code) :
    Option (List Clause) :=
  clausesOf code.tokens

------------------------------------------------------------
-- Reading Clauses
------------------------------------------------------------

/- Whether a token neither ends a clause nor bounds a block. -/
def Token.isInner : Token → Bool
  | .symbol c => c != ';' && c != '\x7b' && c != '\x7d'
  | _ => true

/- Inner tokens are kept until their clause ends. -/
theorem foldlM_take_inner
    {ts : List Token}
    (hInner : ts.all Token.isInner = true)
    (r : ClauseReader) :
    ts.foldlM ClauseReader.take r =
      some { r with pending := ts.reverse ++ r.pending } := by
  induction ts generalizing r with
  | nil => rfl
  | cons t ts ih =>
      rw [List.all_cons, Bool.and_eq_true] at hInner
      have hTake :
          r.take t = some { r with pending := t :: r.pending } := by
        have hT := hInner.1
        cases t with
        | symbol c =>
            simp only [Token.isInner, Bool.and_eq_true,
              bne_iff_ne] at hT
            simp [ClauseReader.take, hT.1.1, hT.1.2, hT.2]
        | _ => rfl
      rw [List.foldlM_cons, hTake]
      simp only [Option.bind_eq_bind, Option.bind_some,
        ih hInner.2, List.reverse_cons, List.append_assoc,
        List.singleton_append]

/- The tokens are read as the clauses, wherever they stand. -/
def ReadAs
    (ts : List Token)
    (cs : List Clause) :
    Prop :=
  ∀ done opened,
    ts.foldlM ClauseReader.take ⟨[], done, opened⟩ =
      some ⟨[], cs.reverse ++ done, opened⟩

namespace ReadAs

/- Clauses are read one after the other. -/
theorem append
    {ts us : List Token}
    {cs ds : List Clause}
    (hTs : ReadAs ts cs)
    (hUs : ReadAs us ds) :
    ReadAs (ts ++ us) (cs ++ ds) := by
  intro done opened
  rw [List.foldlM_append, hTs]
  simp only [Option.bind_eq_bind, Option.bind_some]
  rw [hUs, List.reverse_append, List.append_assoc]

/- Inner tokens and a semicolon are a clause. -/
theorem simple
    {ts : List Token}
    (hInner : ts.all Token.isInner = true) :
    ReadAs (ts ++ [.symbol ';']) [.simple ts] := by
  intro done opened
  rw [List.foldlM_append, foldlM_take_inner hInner]
  simp [ClauseReader.take]

/- So are inner tokens and clauses in braces. -/
theorem braced
    {head ts : List Token}
    {body : List Clause}
    (hInner : head.all Token.isInner = true)
    (hBody : ReadAs ts body) :
    ReadAs
      (head ++ [.symbol '\x7b'] ++ ts ++ [.symbol '\x7d'])
      [.braced head body] := by
  intro done opened
  rw [List.append_assoc, List.append_assoc,
    List.foldlM_append, foldlM_take_inner hInner]
  have hOpen :
      ClauseReader.take ⟨head.reverse ++ [], done, opened⟩
          (.symbol '\x7b') =
        some ⟨[], [], ⟨head, done⟩ :: opened⟩ := by
    simp [ClauseReader.take]
  simp only [Option.bind_eq_bind, Option.bind_some,
    List.singleton_append, List.foldlM_cons, hOpen,
    List.foldlM_append, hBody [] (⟨head, done⟩ :: opened)]
  simp [ClauseReader.take]

end ReadAs

------------------------------------------------------------
-- Pieces of Code
------------------------------------------------------------

namespace Code

/- The parts are read to their end, as the clauses. -/
def Comprises
    (parts : List Part)
    (cs : List Clause) :
    Prop :=
  ∃ ts, Reads parts ts ∧ ReadAs ts cs

namespace Comprises

/- Nothing holds no clause. -/
theorem nil :
    Comprises [] [] :=
  ⟨[], reads_nil, fun _ _ => rfl⟩

/- Pieces hold what each of them holds. -/
theorem append
    {a b : List Part}
    {cs ds : List Clause}
    (hA : Comprises a cs)
    (hB : Comprises b ds) :
    Comprises (a ++ b) (cs ++ ds) := by
  rcases hA with ⟨ts, hReadsA, hAsA⟩
  rcases hB with ⟨us, hReadsB, hAsB⟩
  exact ⟨ts ++ us, hReadsA.append hReadsB, hAsA.append hAsB⟩

/- What ends in its only semicolon is one clause. -/
theorem simple
    {parts : List Part}
    {ts : List Token}
    (hReads : Reads parts (ts ++ [.symbol ';']))
    (hInner : ts.all Token.isInner = true) :
    Comprises parts [.simple ts] :=
  ⟨_, hReads, .simple hInner⟩

/- So is a statement on a line of its own. -/
theorem statement
    {parts : List Part}
    {ts : List Token}
    (hReads : Reads parts ts)
    (hInner : ts.all Token.isInner = true) :
    Comprises (statement parts) [.simple ts] := by
  have hEnd : Reads [.text ";\n"] [.symbol ';'] :=
    rfl
  exact .simple (hReads.append hEnd) hInner

/- What counts is what is written, not its parts. -/
theorem of_atoms_eq
    {a b : List Part}
    {cs : List Clause}
    (hAtoms : atoms a = atoms b)
    (hB : Comprises b cs) :
    Comprises a cs := by
  unfold Comprises Reads at hB ⊢
  rwa [hAtoms]

/-
  A block is one, up to what is written after the brace.  A
  head may end in a word, which the space behind it ends.
-/
theorem braces
    {head body : List Part}
    {ts : List Token}
    {cs : List Clause}
    (hHead : Reads (head ++ [.text " "]) ts)
    (hInner : ts.all Token.isInner = true)
    (hBody : Comprises body cs) :
    Comprises
      (head ++ [.text " \x7b\n", .indent] ++ body ++
        [.unindent, .text "\x7d"])
      [.braced ts cs] := by
  rcases hBody with ⟨us, hReads, hAs⟩
  have hOpen :
      Reads [.text "\x7b\n", .indent] [.symbol '\x7b'] :=
    rfl
  have hClose :
      Reads [.unindent, .text "\x7d"] [.symbol '\x7d'] :=
    rfl
  refine .of_atoms_eq ?_
    ⟨_, ((hHead.append hOpen).append hReads).append hClose,
      .braced hInner hAs⟩
  simp

/- A block on lines of its own is one clause. -/
theorem block
    {head body : List Part}
    {ts : List Token}
    {cs : List Clause}
    (hHead : Reads (head ++ [.text " "]) ts)
    (hInner : ts.all Token.isInner = true)
    (hBody : Comprises body cs) :
    Comprises (block head body) [.braced ts cs] := by
  have hLine : Comprises [.text "\n"] [] :=
    ⟨[], rfl, fun _ _ => rfl⟩
  refine .of_atoms_eq ?_
    ((braces hHead hInner hBody).append hLine)
  simp [Java.block]

/- Two blocks on end are two of them. -/
theorem followed
    {head body nextHead nextBody : List Part}
    {ts us : List Token}
    {cs ds : List Clause}
    (hHead : Reads (head ++ [.text " "]) ts)
    (hInner : ts.all Token.isInner = true)
    (hBody : Comprises body cs)
    (hNext : Reads (nextHead ++ [.text " "]) us)
    (hNextInner : us.all Token.isInner = true)
    (hNextBody : Comprises nextBody ds) :
    Comprises (followed head body nextHead nextBody)
      [.braced ts cs, .braced us ds] := by
  have hGap : Comprises [.text " "] [] :=
    ⟨[], rfl, fun _ _ => rfl⟩
  refine .of_atoms_eq ?_
    (((braces hHead hInner hBody).append hGap).append
      (block hNext hNextInner hNextBody))
  simp [Java.followed, Java.block]

/- The clauses of code are those its parts hold. -/
theorem clauses_eq
    {parts : List Part}
    {cs : List Clause}
    (hParts : Comprises parts cs) :
    (ofParts parts).clauses = some cs := by
  rcases hParts with ⟨ts, hReads, hAs⟩
  have hTokens := hAs [] []
  unfold clauses clausesOf ClauseReader.start
  rw [hReads.tokens_eq, hTokens]
  simp

end Comprises

end Code

------------------------------------------------------------
-- Numbers
------------------------------------------------------------

/- The number that a word of digits stands for. -/
def numeral?
    (word : String) :
    Option Nat :=
  if word ≠ "" ∧ word.toList.all Char.isDigit = true then
    some (Nat.ofDigitChars 10 word.toList 0)
  else none

/- The digits of a number make up a word. -/
theorem toString_digits
    (n : Nat) :
    toString n ≠ "" ∧
      ∀ c ∈ (toString n).toList, c.isDigit = true := by
  rw [Nat.toString_eq_ofList_toDigits, String.toList_ofList]
  constructor
  · intro hNone
    have hDigits := congrArg String.toList hNone
    rw [String.toList_ofList] at hDigits
    exact Nat.toDigits_ne_nil hDigits
  · intro c hC
    exact Nat.isDigit_of_mem_toDigits (by decide) (by decide) hC

/- The word stands for the number. -/
theorem numeral?_toString
    (n : Nat) :
    numeral? (toString n) = some n := by
  rcases toString_digits n with ⟨hSome, hDigits⟩
  unfold numeral?
  rw [if_pos ⟨hSome, List.all_eq_true.mpr hDigits⟩,
    Nat.toString_eq_ofList_toDigits, String.toList_ofList,
    Nat.ofDigitChars_ten_toDigits]

/- A digit can be part of a word. -/
theorem isIdentifierPart_of_isDigit
    {c : Char}
    (hDigit : c.isDigit = true) :
    isIdentifierPart c = true := by
  have hBounds : '0' ≤ c ∧ c ≤ '9' := by
    simpa [Char.isDigit, Char.le_def] using hDigit
  simp [isIdentifierPart, hBounds]

/- A number in front of something else is read as a word. -/
theorem reads_numeral
    {after : String}
    {ts : List Token}
    (n : Nat)
    (hNext :
      after.toList.head?.any
        (fun c => !isIdentifierPart c) = true)
    (hAfter : Reads [.text after] ts) :
    Reads [.text (toString n ++ after)]
      (.word (toString n) :: ts) := by
  rcases toString_digits n with ⟨hSome, hDigits⟩
  exact reads_word hSome
    (fun c hC => isIdentifierPart_of_isDigit (hDigits c hC))
    hNext hAfter

end ClientGen.Java
