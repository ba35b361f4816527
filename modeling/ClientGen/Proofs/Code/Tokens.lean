import ClientGen.Java.Name
import ClientGen.Proofs.Code.Atoms
import Mathlib.Data.List.Forall2

/-
  Code as a reader of Java takes it in: word by word, with
  texts in quotes as what they stand for.

  Main declarations include:
    * `Token`
    * `Mode.step`
    * `Code.tokens`
    * `textTokens`
    * `Code.Reads`
    * `reads_quotedText`
    * `callsOf`
    * `Code.statements`

  What looks like code inside a literal is no code, whatever
  the text says.  Pieces that are read to their end can be
  read one after the other.
-/

namespace ClientGen.Java

open Code

------------------------------------------------------------
-- Tokens
------------------------------------------------------------

/-
  A word, the value of a literal, a mark, or a type.  Types
  are no text yet and can be mistaken for nothing else.
-/
inductive Token where
  | word (s : String)
  | literal (value : String)
  | symbol (c : Char)
  | type (t : TypeName)
  deriving DecidableEq, Repr

/-
  What a reader is in the middle of, with what has been read
  of it so far, last character first.
-/
inductive Mode where
  | between
  | word (read : List Char)
  | literal (read : List Char)
  | escape (read : List Char)
  deriving DecidableEq, Repr

namespace Mode

/- The text that has been read. -/
def textOf
    (read : List Char) :
    String :=
  String.ofList read.reverse

/- The token that ends where something else begins. -/
def ended : Mode → List Token
  | .word read => [.word (textOf read)]
  | _ => []

/- The character that a backslash and another stand for. -/
def unescape
    (c : Char) :
    Char :=
  if c = 'n' then '\n'
  else if c = 'r' then '\r'
  else if c = 't' then '\t'
  else c

/- What an atom begins or is, outside words and literals. -/
def start : Atom → List Token × Mode
  | .char c =>
      if c = '"' then ([], .literal [])
      else if isIdentifierPart c then ([], .word [c])
      else if c = ' ' || c = '\n' then ([], .between)
      else ([.symbol c], .between)
  | .type t => ([.type t], .between)
  | _ => ([], .between)

/- Read one atom: the tokens it ends, and what comes next. -/
def step : Mode → Atom → List Token × Mode
  | .word read, .char c =>
      if isIdentifierPart c then ([], .word (c :: read))
      else
        (.word (textOf read) :: (start (.char c)).1,
          (start (.char c)).2)
  | .literal read, .char c =>
      if c = '"' then ([.literal (textOf read)], .between)
      else if c = '\\' then ([], .escape read)
      else ([], .literal (c :: read))
  | .escape read, .char c =>
      ([], .literal (unescape c :: read))
  | .literal read, _ => ([], .literal read)
  | .escape read, _ => ([], .escape read)
  | mode, a =>
      (mode.ended ++ (start a).1, (start a).2)

/- Read atoms from left to right. -/
def scan : Mode → List Atom → List Token × Mode
  | mode, [] => ([], mode)
  | mode, a :: rest =>
      ((mode.step a).1 ++ (scan (mode.step a).2 rest).1,
        (scan (mode.step a).2 rest).2)

/- Reading may stop on the way and go on. -/
theorem scan_append
    (mode : Mode)
    (a b : List Atom) :
    scan mode (a ++ b) =
      ((scan mode a).1 ++ (scan (scan mode a).2 b).1,
        (scan (scan mode a).2 b).2) := by
  induction a generalizing mode with
  | nil => rfl
  | cons first rest ih =>
      rw [List.cons_append, scan, ih, scan, List.append_assoc]

end Mode

/- The tokens of code. -/
def Code.tokens
    (code : Code) :
    List Token :=
  (Mode.scan .between (atoms code.parts)).1 ++
    (Mode.scan .between (atoms code.parts)).2.ended

/- The tokens of a text. -/
def textTokens
    (s : String) :
    List Token :=
  (Code.ofParts [.text s]).tokens

------------------------------------------------------------
-- Calls and Statements
------------------------------------------------------------

/- What follows each mention of a name. -/
def callsOf
    (name : String) :
    List Token → List (List Token)
  | [] => []
  | t :: rest =>
      if t = .word name then rest :: callsOf name rest
      else callsOf name rest

/- Code between semicolons, to the end of the code. -/
def Code.statements
    (code : Code) :
    List (List Token) :=
  code.tokens.splitOn (.symbol ';')

/- Code that does not mention the name holds no call. -/
theorem callsOf_append
    {name : String}
    {a : List Token}
    (hNone : .word name ∉ a)
    (b : List Token) :
    callsOf name (a ++ b) = callsOf name b := by
  induction a with
  | nil => rfl
  | cons t rest ih =>
      rw [List.mem_cons, not_or] at hNone
      rw [List.cons_append, callsOf,
        if_neg (Ne.symm hNone.1), ih hNone.2]

/- A mention of the name is followed by what comes next. -/
theorem callsOf_word
    (name : String)
    (rest : List Token) :
    callsOf name (.word name :: rest) =
      rest :: callsOf name rest := by
  rw [callsOf, if_pos rfl]

/- Where the name is not mentioned there is no call. -/
theorem callsOf_eq_nil
    {name : String}
    {ts : List Token}
    (hNone : .word name ∉ ts) :
    callsOf name ts = [] := by
  rw [← List.append_nil ts, callsOf_append hNone]
  rfl

/- Statements that end in semicolons are found again. -/
theorem splitOn_flatMap
    {sts : List (List Token)}
    (hNone : ∀ ts ∈ sts, Token.symbol ';' ∉ ts) :
    (sts.flatMap (· ++ [Token.symbol ';'])).splitOn
        (.symbol ';') =
      sts ++ [[]] := by
  induction sts with
  | nil => rfl
  | cons ts sts ih =>
      rw [List.forall_mem_cons] at hNone
      rw [List.flatMap_cons, List.append_assoc,
        List.cons_append, List.nil_append, List.cons_append,
        ← ih hNone.2]
      apply List.splitOnP_append_cons_of_forall_mem
      · intro t hT
        rw [beq_eq_false_iff_ne]
        rintro rfl
        exact hNone.1 hT
      · exact beq_self_eq_true _

------------------------------------------------------------
-- Reading
------------------------------------------------------------

namespace Code

/- The parts are read as the tokens, with nothing left over. -/
def Reads
    (parts : List Part)
    (ts : List Token) :
    Prop :=
  Mode.scan .between (atoms parts) = (ts, .between)

/- Pieces are read one after the other. -/
theorem Reads.append
    {a b : List Part}
    {ts us : List Token}
    (hA : Reads a ts)
    (hB : Reads b us) :
    Reads (a ++ b) (ts ++ us) := by
  unfold Reads at *
  rw [atoms_append, Mode.scan_append, hA]
  simp only [hB]

/- So is a part and what comes after it. -/
theorem Reads.cons
    {p : Part}
    {rest : List Part}
    {ts us : List Token}
    (hP : Reads [p] ts)
    (hRest : Reads rest us) :
    Reads (p :: rest) (ts ++ us) :=
  hP.append hRest

/- Nothing is read from nothing. -/
theorem reads_nil :
    Reads [] [] :=
  rfl

/- A type is a token. -/
theorem reads_type
    (t : TypeName) :
    Reads [.type t] [.type t] :=
  rfl

/- The parts of a fragment in normal form read the same. -/
theorem reads_ofParts_iff
    {parts : List Part}
    {ts : List Token} :
    Reads (ofParts parts).parts ts ↔ Reads parts ts := by
  unfold Reads
  rw [atoms_ofParts]

/- What the parts are read as are the tokens of the code. -/
theorem Reads.tokens_eq
    {parts : List Part}
    {ts : List Token}
    (hReads : Reads parts ts) :
    (ofParts parts).tokens = ts := by
  unfold tokens
  rw [reads_ofParts_iff.mpr hReads]
  exact List.append_nil ts

/- A text that does not end in the middle of a token. -/
theorem reads_text
    {s : String}
    (hEnd :
      (Mode.scan .between (s.toList.map .char)).2 =
        .between) :
    Reads [.text s] (textTokens s) := by
  have hAtoms :
      atoms [Part.text s] = s.toList.map .char := by
    simp
  have hText :
      textTokens s =
        (Mode.scan .between (s.toList.map .char)).1 := by
    unfold textTokens tokens
    rw [atoms_ofParts, hAtoms, hEnd]
    exact List.append_nil _
  unfold Reads
  rw [hAtoms, hText]
  exact Prod.ext rfl hEnd

/- Inside a literal a character is read as it was meant. -/
theorem scan_escapeChar
    (read : List Char)
    (c : Char) :
    Mode.scan (.literal read) ((escapeChar c).map .char) =
      ([], .literal (c :: read)) := by
  by_cases hQuote : c = '"'
  · subst hQuote
    rfl
  by_cases hBackslash : c = '\\'
  · subst hBackslash
    rfl
  by_cases hLine : c = '\n'
  · subst hLine
    rfl
  by_cases hReturn : c = '\r'
  · subst hReturn
    rfl
  by_cases hTab : c = '\t'
  · subst hTab
    rfl
  simp [escapeChar, Mode.scan, Mode.step, hQuote, hBackslash,
    hLine, hReturn, hTab]

/- So is every text, up to the quote that ends it. -/
theorem scan_literal
    (read value : List Char) :
    Mode.scan (.literal read)
        ((value.flatMap escapeChar ++ ['"']).map .char) =
      ([.literal (Mode.textOf (value.reverse ++ read))],
        .between) := by
  induction value generalizing read with
  | nil => rfl
  | cons c value ih =>
      rw [List.flatMap_cons, List.append_assoc, List.map_append,
        Mode.scan_append, scan_escapeChar]
      simp only [ih, List.nil_append, List.reverse_cons,
        List.append_assoc, List.singleton_append]

/- A literal is read as what it stands for. -/
theorem reads_quotedText
    (value : String) :
    Reads [quotedText value] [.literal value] := by
  have hAtoms :
      atoms [quotedText value] =
        .char '"' ::
          (value.toList.flatMap escapeChar ++ ['"']).map
            .char := by
    simp [stringLiteral]
  unfold Reads
  rw [hAtoms, Mode.scan, Mode.step]
  · have hStart :
        Mode.start (.char '"') = ([], .literal []) :=
      rfl
    rw [hStart, scan_literal]
    simp [Mode.ended, Mode.textOf]
  all_goals simp

/- Indentation is not read. -/
theorem Reads.continued
    {head lines : List Part}
    {ts us : List Token}
    (hHead : Reads head ts)
    (hLines : Reads lines us) :
    Reads (continued head lines) (ts ++ us) := by
  have hIn : Reads [.indent, .indent] [] :=
    rfl
  have hOut : Reads [.unindent, .unindent] [] :=
    rfl
  have hAll := ((hHead.append hIn).append hLines).append hOut
  rwa [List.append_nil, List.append_nil] at hAll

/- What is read piece by piece is read line by line. -/
theorem forall₂_map
    {α : Type}
    {f : α → List Part}
    {g : α → List Token}
    (hEach : ∀ a, Reads (f a) (g a))
    (as : List α) :
    List.Forall₂ Reads (as.map f) (as.map g) := by
  rw [List.forall₂_map_left_iff, List.forall₂_map_right_iff]
  exact List.forall₂_same.mpr fun a _ => hEach a

/- Lines are read one after the other. -/
theorem reads_join
    {lines : List (List Part)}
    {ts : List (List Token)}
    (hLines : List.Forall₂ Reads lines ts) :
    Reads (join (lines.map ofParts) "\n").parts
      ts.flatten := by
  rw [join, reads_ofParts_iff]
  induction hLines with
  | nil => exact reads_nil
  | @cons line _ rest _ hLine hRest ih =>
      have hFirst := reads_ofParts_iff.mpr hLine
      cases hRest with
      | nil => simpa [joinedParts] using hFirst
      | cons _ _ =>
          have hBreak : Reads [.text "\n"] [] :=
            rfl
          exact hFirst.append (hBreak.append ih)

end Code

end ClientGen.Java
