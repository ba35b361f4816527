import ClientGen.Java.Literal
import ClientGen.Json.Text
import Mathlib.Data.List.DropRight

/-
  What a string literal means in Java source.

  Main declarations include:
    * `utf16`
    * `translated`
    * `LiteralState.step`
    * `literalValue?`
    * `literalValue?_stringLiteral`
    * `stringLiteral_injective`
    * `StaysInQuotes`
    * `staysInQuotes_flatMap_escapeChar`

  Source text is turned into code units of UTF-16, wherever a
  backslash that is not escaped itself begins the number of
  one.  Only then are the quotes and the other escapes of a
  literal looked at.
-/

namespace ClientGen.Text

------------------------------------------------------------
-- Code Units
------------------------------------------------------------

/- The code units of a character: one, or a surrogate pair. -/
def codeUnits
    (c : Char) :
    List Nat :=
  if c.toNat < 0x10000 then [c.toNat]
  else
    [0xD800 + (c.toNat - 0x10000) / 0x400,
      0xDC00 + (c.toNat - 0x10000) % 0x400]

/- The code units of a text. -/
def utf16
    (cs : List Char) :
    List Nat :=
  cs.flatMap codeUnits

@[simp]
theorem utf16_nil :
    utf16 [] = [] :=
  rfl

@[simp]
theorem utf16_cons
    (c : Char)
    (cs : List Char) :
    utf16 (c :: cs) = codeUnits c ++ utf16 cs :=
  rfl

@[simp]
theorem utf16_append
    (a b : List Char) :
    utf16 (a ++ b) = utf16 a ++ utf16 b :=
  List.flatMap_append

/- Half of a pair is no character. -/
theorem toNat_not_surrogate
    (c : Char) :
    c.toNat < 0xD800 ∨ 0xDFFF < c.toNat :=
  c.valid.imp id And.left

theorem toNat_lt
    (c : Char) :
    c.toNat < 0x110000 := by
  have hValid : c.toNat.isValidChar := c.valid
  rcases hValid with hLow | ⟨-, hHigh⟩
  · omega
  · exact hHigh

/- Units are read as characters in only one way. -/
theorem codeUnits_append_inj
    {c d : Char}
    {a b : List Nat}
    (hSame : codeUnits c ++ a = codeUnits d ++ b) :
    c = d ∧ a = b := by
  have hC := toNat_not_surrogate c
  have hD := toNat_not_surrogate d
  have hLtC := toNat_lt c
  have hLtD := toNat_lt d
  rw [← Char.toNat_inj]
  unfold codeUnits at hSame
  split at hSame
  · split at hSame
    · simpa using hSame
    · -- The first half of a pair would be a character.
      have hHead := (List.cons.inj hSame).1
      omega
  · split at hSame
    · have hHead := (List.cons.inj hSame).1
      omega
    · simp only [List.cons_append, List.nil_append,
        List.cons.injEq] at hSame
      rcases hSame with ⟨hHigh, hLow, hRest⟩
      exact ⟨by omega, hRest⟩

/- So a text is known by its units. -/
theorem utf16_injective
    {as bs : List Char}
    (hSame : utf16 as = utf16 bs) :
    as = bs := by
  have hSome : ∀ c, codeUnits c ≠ [] := by
    intro c
    unfold codeUnits
    split <;> simp
  induction as generalizing bs with
  | nil =>
      cases bs with
      | nil => rfl
      | cons d bs =>
          rw [utf16_nil, utf16_cons, eq_comm,
            List.append_eq_nil_iff] at hSame
          exact absurd hSame.1 (hSome d)
  | cons c as ih =>
      cases bs with
      | nil =>
          rw [utf16_nil, utf16_cons,
            List.append_eq_nil_iff] at hSame
          exact absurd hSame.1 (hSome c)
      | cons d bs =>
          rcases codeUnits_append_inj hSame with
            ⟨rfl, hRest⟩
          rw [ih hRest]

end ClientGen.Text

namespace ClientGen.Java

open ClientGen.Text

------------------------------------------------------------
-- Unicode Escapes
------------------------------------------------------------

mutual

/-
  The code units of source text.  A backslash begins a Unicode
  escape if a `u` stands behind it, unless it is the second of
  a pair of backslashes.
-/
def translated : List Char → Option (List Nat)
  | [] => some []
  | '\\' :: '\\' :: rest =>
      (translated rest).map (utf16 ['\\', '\\'] ++ ·)
  | '\\' :: 'u' :: rest => afterMark rest
  | c :: rest => (translated rest).map (codeUnits c ++ ·)

/- Behind the `u`, which may be repeated, are four digits. -/
def afterMark : List Char → Option (List Nat)
  | 'u' :: rest => afterMark rest
  | a :: b :: c :: d :: rest =>
      match Json.hexCode a b c d with
      | some unit => (translated rest).map (unit :: ·)
      | none => none
  | _ => none

end

------------------------------------------------------------
-- Literals
------------------------------------------------------------

/- What is written behind a backslash, and the unit it means. -/
def letterEscapes : List (Char × Nat) :=
  [('b', 0x08), ('t', 0x09), ('n', 0x0A), ('f', 0x0C),
   ('r', 0x0D), ('s', 0x20), ('"', 0x22), ('\x27', 0x27),
   ('\\', 0x5C)]

def escapedUnit?
    (u : Nat) :
    Option Nat :=
  (letterEscapes.find? fun e => e.1.toNat == u).map Prod.snd

/- The value of an octal digit. -/
def octalDigit?
    (u : Nat) :
    Option Nat :=
  if 0x30 ≤ u ∧ u ≤ 0x37 then some (u - 0x30) else none

/-
  How far a literal has been read.  An octal escape has its
  value so far and can go on with some more digits.
-/
inductive LiteralState where
  | before
  | inside
  | escape
  | octal (value more : Nat)
  | behind
  deriving DecidableEq, Repr

namespace LiteralState

/- A unit that does not belong to an escape. -/
def stepInside
    (u : Nat) :
    Option (List Nat × LiteralState) :=
  if u = '"'.toNat then some ([], .behind)
  else if u = '\\'.toNat then some ([], .escape)
  else if u = '\n'.toNat ∨ u = '\r'.toNat then none
  else some ([u], .inside)

/-
  What a unit adds to the value of the literal, and how it is
  read on.  Nothing may follow the closing quote, and up to
  three octal digits make an escape as long as its value is
  that of one byte.
-/
def step : LiteralState → Nat →
    Option (List Nat × LiteralState)
  | .before, u =>
      if u = '"'.toNat then some ([], .inside) else none
  | .inside, u => stepInside u
  | .escape, u =>
      match octalDigit? u with
      | some d => some ([], .octal d (if d < 4 then 2 else 1))
      | none => (escapedUnit? u).map fun value =>
          ([value], .inside)
  | .octal value more, u =>
      match octalDigit? u, more with
      | some d, more + 1 =>
          some ([], .octal (8 * value + d) more)
      | _, _ => (stepInside u).map fun (units, next) =>
          (value :: units, next)
  | .behind, _ => none

/- The units of a literal, read to its closing quote. -/
def read : LiteralState → List Nat → Option (List Nat)
  | .behind, [] => some []
  | _, [] => none
  | state, u :: rest =>
      match state.step u with
      | some (units, next) => (read next rest).map (units ++ ·)
      | none => none

end LiteralState

/- The value of a literal, if the text is one. -/
def literalValue?
    (s : String) :
    Option (List Nat) :=
  (translated s.toList).bind LiteralState.before.read

/- An escape of each kind, and a backslash before a letter. -/
example :
    literalValue? "\"\\uu0041\\102\\60\\t\\\\u0043\"" =
      some (utf16 "AB0\t\\u0043".toList) := by
  decide

example :
    literalValue? "\"\\u000a\"" = none ∧
      literalValue? "\"\"\"" = none := by
  decide

------------------------------------------------------------
-- Escaped Characters
------------------------------------------------------------

/- What is escaped, with what stands behind the backslash. -/
def escapedChars : List (Char × Char) :=
  [('"', '"'), ('\\', '\\'), ('\n', 'n'), ('\r', 'r'),
   ('\t', 't')]

/- The character is not among them. -/
def IsUnescaped (c : Char) : Prop :=
  ∀ e ∈ escapedChars, c ≠ e.1

/- A character is escaped, or stands for itself. -/
theorem escapeChar_cases
    (c : Char) :
    (∃ e ∈ escapedChars,
        c = e.1 ∧ escapeChar c = ['\\', e.2]) ∨
      (IsUnescaped c ∧ escapeChar c = [c]) := by
  by_cases hEscaped : ∃ e ∈ escapedChars, c = e.1
  · rcases hEscaped with ⟨e, hE, rfl⟩
    have hAll :
        ∀ e ∈ escapedChars,
          escapeChar e.1 = ['\\', e.2] := by
      decide
    exact .inl ⟨e, hE, rfl, hAll e hE⟩
  · have hPlain : IsUnescaped c :=
      fun e hE hSame => hEscaped ⟨e, hE, hSame⟩
    refine .inr ⟨hPlain, ?_⟩
    simp only [IsUnescaped, escapedChars, List.forall_mem_cons,
      List.not_mem_nil, false_imp_iff, implies_true,
      and_true] at hPlain
    simp [escapeChar, hPlain]

/- Backslashes are escaped. -/
theorem IsUnescaped.ne_backslash
    {c : Char}
    (hC : IsUnescaped c) :
    c ≠ '\\' :=
  hC ('\\', '\\') (by decide)

/- No escape is written with the letter of Unicode escapes. -/
theorem ne_mark_of_mem_escapedChars
    {e : Char × Char}
    (hE : e ∈ escapedChars) :
    e.2 ≠ 'u' := by
  revert e
  decide

/- Escapes have units of their own that are read as meant. -/
theorem units_of_mem_escapedChars
    {e : Char × Char}
    (hE : e ∈ escapedChars) :
    utf16 ['\\', e.2] = [0x5C, e.2.toNat] ∧
      octalDigit? e.2.toNat = none ∧
      (escapedUnit? e.2.toNat).map (fun value => [value]) =
        some (codeUnits e.1) := by
  revert e
  decide

/- Other characters have no units that end a literal. -/
theorem stepInside_of_mem_codeUnits
    {c : Char}
    {u : Nat}
    (hC : IsUnescaped c)
    (hU : u ∈ codeUnits c) :
    LiteralState.stepInside u = some ([u], .inside) := by
  have hOther : ∀ e ∈ escapedChars, u ≠ e.1.toNat := by
    intro e hE hSame
    unfold codeUnits at hU
    split at hU
    · rw [List.mem_singleton.mp hU, Char.toNat_inj] at hSame
      exact hC e hE hSame
    · -- Surrogates lie above all that is escaped.
      have hSmall :
          ∀ e ∈ escapedChars, e.1.toNat < 0x80 := by
        decide
      have hLow := hSmall e hE
      simp only [List.mem_cons, List.not_mem_nil,
        or_false] at hU
      omega
  have hQuote : u ≠ '"'.toNat :=
    hOther ('"', '"') (by decide)
  have hSlash : u ≠ '\\'.toNat :=
    hOther ('\\', '\\') (by decide)
  have hEnd : ¬ (u = '\n'.toNat ∨ u = '\r'.toNat) :=
    not_or.mpr ⟨hOther ('\n', 'n') (by decide),
      hOther ('\r', 'r') (by decide)⟩
  rw [LiteralState.stepInside, if_neg hQuote, if_neg hSlash,
    if_neg hEnd]

------------------------------------------------------------
-- Reading Literals
------------------------------------------------------------

/- Only a backslash begins something in source text. -/
theorem translated_cons
    {c : Char}
    (hC : c ≠ '\\')
    (rest : List Char) :
    translated (c :: rest) =
      (translated rest).map (codeUnits c ++ ·) := by
  rw [translated]
  · rintro _ rfl
    exact absurd rfl hC
  · rintro _ rfl
    exact absurd rfl hC

/- An escaped character is no Unicode escape. -/
theorem translated_escapeChar
    (c : Char)
    (rest : List Char) :
    translated (escapeChar c ++ rest) =
      (translated rest).map (utf16 (escapeChar c) ++ ·) := by
  rcases escapeChar_cases c with
    ⟨e, hE, rfl, hEscape⟩ | ⟨hPlain, hEscape⟩
  · rw [hEscape, List.cons_append, List.singleton_append]
    by_cases hSlash : e.2 = '\\'
    · rw [hSlash, translated]
    · have hMark := ne_mark_of_mem_escapedChars hE
      rw [translated, translated_cons hSlash, Option.map_map]
      · simp [Function.comp_def]
      · rintro _ - hRest
        exact hSlash (List.cons.inj hRest).1
      · rintro _ - hRest
        exact hMark (List.cons.inj hRest).1
  · rw [hEscape, List.singleton_append,
      translated_cons hPlain.ne_backslash, utf16_cons,
      utf16_nil, List.append_nil]

/- A literal is an escaped text between quotes. -/
theorem toList_stringLiteral
    (value : String) :
    (stringLiteral value).toList =
      '"' :: (value.toList.flatMap escapeChar ++ ['"']) :=
  String.toList_ofList

theorem stringLiteral_ne_empty
    (value : String) :
    stringLiteral value ≠ "" := by
  intro hNone
  have hChars := congrArg String.toList hNone
  simp [toList_stringLiteral] at hChars

/- So it has the units of its characters. -/
theorem translated_stringLiteral
    (value : String) :
    translated (stringLiteral value).toList =
      some (utf16 (stringLiteral value).toList) := by
  have hBody :
      ∀ cs : List Char,
        translated (cs.flatMap escapeChar ++ ['"']) =
          some (utf16 (cs.flatMap escapeChar ++ ['"'])) := by
    intro cs
    induction cs with
    | nil => rfl
    | cons c cs ih =>
        rw [List.flatMap_cons, List.append_assoc,
          translated_escapeChar, ih]
        simp
  rw [toList_stringLiteral, translated_cons (by decide), hBody]
  rfl

namespace LiteralState

/- Reading goes on behind what has been read. -/
theorem read_cons
    {state next : LiteralState}
    {u : Nat}
    {units : List Nat}
    (hStep : state.step u = some (units, next))
    (rest : List Nat) :
    state.read (u :: rest) =
      (next.read rest).map (units ++ ·) := by
  cases state <;> simp only [read, hStep]

/- Units that stand for themselves are kept. -/
theorem read_inside_append
    {units : List Nat}
    (hUnits :
      ∀ u ∈ units, inside.step u = some ([u], .inside))
    (rest : List Nat) :
    inside.read (units ++ rest) =
      (inside.read rest).map (units ++ ·) := by
  induction units with
  | nil => simp
  | cons u units ih =>
      rw [List.forall_mem_cons] at hUnits
      rw [List.cons_append, read_cons hUnits.1, ih hUnits.2,
        Option.map_map]
      rfl

/- An escaped character is read as the character. -/
theorem read_escapeChar
    (c : Char)
    (rest : List Nat) :
    inside.read (utf16 (escapeChar c) ++ rest) =
      (inside.read rest).map (codeUnits c ++ ·) := by
  rcases escapeChar_cases c with
    ⟨e, hE, rfl, hEscape⟩ | ⟨hPlain, hEscape⟩
  · rcases units_of_mem_escapedChars hE with
      ⟨hUnits, hOctal, hLetter⟩
    rcases Option.map_eq_some_iff.mp hLetter with
      ⟨value, hValue, hSame⟩
    have hBegin : inside.step 0x5C = some ([], .escape) :=
      rfl
    have hEnd :
        escape.step e.2.toNat =
          some (codeUnits e.1, .inside) := by
      simp only [step, hOctal, hValue, Option.map_some, hSame]
    rw [hEscape, hUnits, List.cons_append,
      List.singleton_append, read_cons hBegin, read_cons hEnd]
    simp [Function.comp_def]
  · rw [hEscape, utf16_cons, utf16_nil, List.append_nil]
    exact read_inside_append
      (fun _ hU => stepInside_of_mem_codeUnits hPlain hU) rest

end LiteralState

/- A literal means the text that it was written for. -/
theorem literalValue?_stringLiteral
    (value : String) :
    literalValue? (stringLiteral value) =
      some (utf16 value.toList) := by
  have hBody :
      ∀ cs : List Char,
        LiteralState.inside.read
            (utf16 (cs.flatMap escapeChar ++ ['"'])) =
          some (utf16 cs) := by
    intro cs
    induction cs with
    | nil => rfl
    | cons c cs ih =>
        rw [List.flatMap_cons, List.append_assoc, utf16_append,
          LiteralState.read_escapeChar, ih]
        rfl
  have hOpen :
      LiteralState.before.step '"'.toNat =
        some ([], .inside) :=
    rfl
  have hUnits :
      utf16 (stringLiteral value).toList =
        '"'.toNat ::
          utf16 (value.toList.flatMap escapeChar ++ ['"']) := by
    rw [toList_stringLiteral]
    rfl
  rw [literalValue?, translated_stringLiteral, Option.bind_some,
    hUnits, LiteralState.read_cons hOpen, hBody]
  rfl

/- So different texts have different literals. -/
theorem stringLiteral_injective :
    Function.Injective stringLiteral := by
  intro a b hSame
  have hValue := literalValue?_stringLiteral a
  rw [hSame, literalValue?_stringLiteral] at hValue
  exact String.toList_injective
    (utf16_injective (Option.some.inj hValue)).symm

------------------------------------------------------------
-- Texts in Quotes
------------------------------------------------------------

/- How many backslashes stand last in a text. -/
def closingBackslashes
    (cs : List Char) :
    Nat :=
  (cs.rtakeWhile (· == '\\')).length

/-
  The text stays between the quotes of a literal.  It is on
  one line, every quote in it stands behind an odd number of
  backslashes, and the closing quote stands behind an even
  one.  So does no backslash with a `u` behind it, which would
  begin a Unicode escape.
-/
structure StaysInQuotes (body : List Char) : Prop where
  lineFeed : '\n' ∉ body
  carriageReturn : '\r' ∉ body
  quotes : ∀ before after,
    body = before ++ '"' :: after →
      closingBackslashes before % 2 = 1
  ended : closingBackslashes body % 2 = 0
  unicode : ∀ before after,
    body = before ++ '\\' :: 'u' :: after →
      closingBackslashes before % 2 = 1

/- Whether what stands behind a text would be escaped. -/
def escapesNext : Bool → List Char → Bool
  | escaped, [] => escaped
  | escaped, c :: rest =>
      escapesNext (c == '\\' && !escaped) rest

theorem escapesNext_concat
    (escaped : Bool)
    (cs : List Char)
    (c : Char) :
    escapesNext escaped (cs ++ [c]) =
      (c == '\\' && !escapesNext escaped cs) := by
  induction cs generalizing escaped with
  | nil => rfl
  | cons d cs ih =>
      rw [List.cons_append, escapesNext, ih, escapesNext]

/- Only a backslash escapes. -/
theorem escapesNext_cons
    {c : Char}
    (hC : c ≠ '\\')
    (escaped : Bool)
    (rest : List Char) :
    escapesNext escaped (c :: rest) =
      escapesNext false rest := by
  have hOther : (c == '\\') = false := by
    simpa using hC
  rw [escapesNext, hOther, Bool.false_and]

/- A pair that begins with a backslash escapes nothing. -/
theorem escapesNext_pair
    (c : Char)
    (rest : List Char) :
    escapesNext false ('\\' :: c :: rest) =
      escapesNext false rest := by
  simp [escapesNext]

/- It is behind an odd number of backslashes. -/
theorem escapesNext_eq
    (cs : List Char) :
    escapesNext false cs =
      decide (closingBackslashes cs % 2 = 1) := by
  unfold closingBackslashes
  induction cs using List.reverseRecOn with
  | nil => rfl
  | append_singleton cs c ih =>
      rw [escapesNext_concat, ih]
      by_cases hC : c = '\\'
      · subst hC
        rw [List.rtakeWhile_concat_pos _ _ _ rfl,
          List.length_append, List.length_singleton]
        generalize (cs.rtakeWhile (· == '\\')).length = n
        have hNext : (n + 1) % 2 = 1 ↔ ¬ n % 2 = 1 := by
          omega
        simp only [hNext, beq_self_eq_true, Bool.true_and,
          decide_not]
      · have hOther : (c == '\\') = false := by
          simpa using hC
        rw [List.rtakeWhile_concat_neg (· == '\\') cs c
          (by simpa using hC), hOther]
        rfl

/- Behind whole escapes nothing is escaped. -/
theorem escapesNext_flatMap_escapeChar
    (cs : List Char) :
    escapesNext false (cs.flatMap escapeChar) = false := by
  induction cs with
  | nil => rfl
  | cons c cs ih =>
      rw [List.flatMap_cons]
      rcases escapeChar_cases c with
        ⟨e, -, -, hEscape⟩ | ⟨hPlain, hEscape⟩
      · rw [hEscape, List.cons_append, List.singleton_append,
          escapesNext_pair, ih]
      · rw [hEscape, List.singleton_append,
          escapesNext_cons hPlain.ne_backslash, ih]

/-
  A character among escaped ones is escaped itself, begins an
  escape, or needs none.
-/
theorem cases_of_flatMap_escapeChar
    {cs before after : List Char}
    {c : Char}
    (hSplit : cs.flatMap escapeChar = before ++ c :: after) :
    escapesNext false before = true ∨
      (∃ e ∈ escapedChars,
        c = '\\' ∧ after.head? = some e.2) ∨
      IsUnescaped c := by
  induction cs generalizing before with
  | nil => simp at hSplit
  | cons x cs ih =>
      rw [List.flatMap_cons] at hSplit
      rcases escapeChar_cases x with
        ⟨e, hE, -, hEscape⟩ | ⟨hPlain, hEscape⟩
      · rw [hEscape] at hSplit
        match before with
        | [] =>
            cases hSplit
            exact .inr (.inl ⟨e, hE, rfl, rfl⟩)
        | [first] =>
            cases hSplit
            exact .inl rfl
        | first :: second :: before =>
            simp only [List.cons_append, List.nil_append,
              List.cons.injEq] at hSplit
            rcases hSplit with ⟨rfl, rfl, hRest⟩
            rw [escapesNext_pair]
            exact ih hRest
      · rw [hEscape] at hSplit
        match before with
        | [] =>
            cases hSplit
            exact .inr (.inr hPlain)
        | first :: before =>
            simp only [List.cons_append, List.nil_append,
              List.cons.injEq] at hSplit
            rcases hSplit with ⟨rfl, hRest⟩
            rw [escapesNext_cons hPlain.ne_backslash]
            exact ih hRest

/- Neither end of a line is written in an escaped text. -/
theorem not_mem_flatMap_escapeChar
    {d : Char}
    (hD : d = '\n' ∨ d = '\r')
    (cs : List Char) :
    d ∉ cs.flatMap escapeChar := by
  intro hMem
  rcases List.mem_flatMap.mp hMem with ⟨c, -, hIn⟩
  rcases escapeChar_cases c with
    ⟨e, hE, -, hEscape⟩ | ⟨hPlain, hEscape⟩
  · rw [hEscape] at hIn
    have hNone :
        ∀ e ∈ escapedChars,
          '\n' ∉ ['\\', e.2] ∧ '\r' ∉ ['\\', e.2] := by
      decide
    rcases hD with rfl | rfl
    · exact (hNone e hE).1 hIn
    · exact (hNone e hE).2 hIn
  · rw [hEscape, List.mem_singleton] at hIn
    subst hIn
    rcases hD with rfl | rfl
    · exact hPlain ('\n', 'n') (by decide) rfl
    · exact hPlain ('\r', 'r') (by decide) rfl

/- Escaped texts stay between their quotes. -/
theorem staysInQuotes_flatMap_escapeChar
    (cs : List Char) :
    StaysInQuotes (cs.flatMap escapeChar) where
  lineFeed := not_mem_flatMap_escapeChar (.inl rfl) cs
  carriageReturn := not_mem_flatMap_escapeChar (.inr rfl) cs
  quotes := by
    intro before after hSplit
    rcases cases_of_flatMap_escapeChar hSplit with
      hEscaped | ⟨e, -, hSlash, -⟩ | hPlain
    · simpa [escapesNext_eq] using hEscaped
    · cases hSlash
    · exact absurd rfl (hPlain ('"', '"') (by decide))
  ended := by
    have hNone := escapesNext_flatMap_escapeChar cs
    rw [escapesNext_eq, decide_eq_false_iff_not] at hNone
    omega
  unicode := by
    intro before after hSplit
    rcases cases_of_flatMap_escapeChar hSplit with
      hEscaped | ⟨e, hE, -, hHead⟩ | hPlain
    · simpa [escapesNext_eq] using hEscaped
    · exact absurd (Option.some.inj hHead).symm
        (ne_mark_of_mem_escapedChars hE)
    · exact absurd rfl hPlain.ne_backslash

/- A literal does not go on to another line. -/
theorem newline_not_mem_stringLiteral
    (value : String) :
    '\n' ∉ (stringLiteral value).toList := by
  rw [toList_stringLiteral]
  simp [(staysInQuotes_flatMap_escapeChar value.toList).lineFeed]

end ClientGen.Java
