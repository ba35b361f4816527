import ClientGen.Proofs.Json.Lexing
import Mathlib.Data.List.TakeWhile

/-
  All the ways in which tokens can be written, and that they
  are what the tokens of a text are read from.

  Main declarations include:
    * `UnitsSpelled`
    * `Numeral.SpelledAs`
    * `Token.SpelledAs`
    * `TokensSpelled`
    * `Separated`
    * `tokens_eq_of_spelled`
    * `tokensSpelled_tokens`

  The grammar says what a text consists of and nothing about
  how it is read.  Only numbers ask for something in return:
  they have to be followed by what cannot go on with them.
-/

namespace ClientGen.Json

------------------------------------------------------------
-- Strings
------------------------------------------------------------

/-
  A unit of a literal: a character that stands for itself,
  one behind a backslash, or four hexadecimal digits.
-/
inductive UnitSpelled : StringUnit → List Char → Prop where
  | plain
      {c : Char}
      (hControl : ¬c < ' ')
      (hQuote : c ≠ '"')
      (hSlash : c ≠ '\\') :
      UnitSpelled (.char c) [c]
  | escape
      {e c : Char}
      (hEscaped : escapedChar e = some c) :
      UnitSpelled (.char c) ['\\', e]
  | code
      {a b c d : Char}
      {n : Nat}
      (hCode : hexCode a b c d = some n) :
      UnitSpelled (.code n) ['\\', 'u', a, b, c, d]

/- Units of a literal one after the other. -/
inductive UnitsSpelled :
    List StringUnit → List Char → Prop where
  | nil : UnitsSpelled [] []
  | cons
      {u : StringUnit}
      {units : List StringUnit}
      {cs rest : List Char}
      (hFirst : UnitSpelled u cs)
      (hRest : UnitsSpelled units rest) :
      UnitsSpelled (u :: units) (cs ++ rest)

------------------------------------------------------------
-- Numbers
------------------------------------------------------------

/- At least one digit and nothing but digits. -/
def AreDigits
    (cs : List Char) :
    Prop :=
  cs ≠ [] ∧ ∀ c ∈ cs, isDigit c = true

/- The sign of a number, which is written if it is a minus. -/
def signOf : Bool → List Char
  | true => ['-']
  | false => []

/- An exponent, where a plus may be written as well. -/
def Exponent.SpelledAs
    (e : Exponent)
    (cs : List Char) :
    Prop :=
  AreDigits e.digits ∧
    ∃ letter sign,
      (letter = 'e' ∨ letter = 'E') ∧
        (sign = signOf e.negative ∨
          (sign = ['+'] ∧ e.negative = false)) ∧
        cs = letter :: (sign ++ e.digits)

/- The fraction behind a point, if there is one. -/
def FractionSpelled :
    Option (List Char) → List Char → Prop
  | none, cs => cs = []
  | some digits, cs => AreDigits digits ∧ cs = '.' :: digits

/- The exponent of a number, if there is one. -/
def ExponentSpelled :
    Option Exponent → List Char → Prop
  | none, cs => cs = []
  | some e, cs => e.SpelledAs cs

/- A number: sign, digits, fraction and exponent. -/
def Numeral.SpelledAs
    (n : Numeral)
    (cs : List Char) :
    Prop :=
  AreDigits n.whole ∧ wellBegun n.whole = true ∧
    ∃ fraction exponent,
      FractionSpelled n.fraction fraction ∧
        ExponentSpelled n.exponent exponent ∧
        cs =
          signOf n.negative ++ n.whole ++ fraction ++ exponent

------------------------------------------------------------
-- Tokens
------------------------------------------------------------

/- The characters that make up a token. -/
inductive Token.SpelledAs : Token → List Char → Prop where
  | beginArray : SpelledAs .beginArray ['[']
  | endArray : SpelledAs .endArray [']']
  | beginObject : SpelledAs .beginObject ['\x7b']
  | endObject : SpelledAs .endObject ['\x7d']
  | colon : SpelledAs .colon [':']
  | comma : SpelledAs .comma [',']
  | null : SpelledAs .null "null".toList
  | yes : SpelledAs (.bool true) "true".toList
  | no : SpelledAs (.bool false) "false".toList
  | number
      {n : Numeral}
      {cs : List Char}
      (hNumeral : n.SpelledAs cs) :
      SpelledAs (.number n) cs
  | string
      {units : List StringUnit}
      {cs : List Char}
      (hUnits : UnitsSpelled units cs) :
      SpelledAs
        (.string ((decodeUnits units).map String.ofList))
        ('"' :: (cs ++ ['"']))

/- Nothing but the white space that may stand anywhere. -/
def IsSpacing
    (cs : List Char) :
    Prop :=
  ∀ c ∈ cs, isSpace c = true

/- Tokens with any white space before, between and after. -/
inductive TokensSpelled :
    List Token → List Char → Prop where
  | nil
      {space : List Char}
      (hSpace : IsSpacing space) :
      TokensSpelled [] space
  | cons
      {t : Token}
      {ts : List Token}
      {space cs rest : List Char}
      (hSpace : IsSpacing space)
      (hFirst : t.SpelledAs cs)
      (hRest : TokensSpelled ts rest) :
      TokensSpelled (t :: ts) (space ++ cs ++ rest)

/- More white space can stand before the first token. -/
theorem TokensSpelled.spacing_append
    {ts : List Token}
    {space cs : List Char}
    (hTokens : TokensSpelled ts cs)
    (hSpace : IsSpacing space) :
    TokensSpelled ts (space ++ cs) := by
  cases hTokens with
  | nil hMore =>
      exact .nil (List.forall_mem_append.mpr ⟨hSpace, hMore⟩)
  | cons hMore hFirst hRest =>
      rw [← List.append_assoc, ← List.append_assoc]
      exact .cons
        (List.forall_mem_append.mpr ⟨hSpace, hMore⟩) hFirst
        hRest

/- The tokens that can come after a value inside another. -/
def Token.isDivider : Token → Bool
  | .comma => true
  | .endArray => true
  | .endObject => true
  | _ => false

/- Every number is the last token or has a divider behind. -/
def Separated : List Token → Prop
  | [] => True
  | .number _ :: t :: rest =>
      t.isDivider = true ∧ Separated (t :: rest)
  | _ :: rest => Separated rest

------------------------------------------------------------
-- Reading Strings
------------------------------------------------------------

/- A unit is read off the front of a literal. -/
theorem UnitSpelled.lexUnits_append
    {u : StringUnit}
    {cs : List Char}
    (hUnit : UnitSpelled u cs)
    (rest : List Char) :
    lexUnits (cs ++ rest) =
      (lexUnits rest).map (withUnit u) := by
  cases hUnit with
  | plain hControl hQuote hSlash =>
      rw [List.singleton_append, lexUnits]
      · simp [hControl, hSlash]
      · exact hQuote
      · intro _ _ _ _ _ hSame
        exact absurd hSame hSlash
      · intro _ _ hSame
        exact absurd hSame hSlash
  | @escape e c hEscaped =>
      have hUnicode : e ≠ 'u' := by
        rintro rfl
        cases hEscaped
      rw [List.cons_append, List.singleton_append, lexUnits]
      · rw [hEscaped]
      · intro _ _ _ _ _ hSame
        exact absurd hSame hUnicode
  | code hCode =>
      simp only [List.cons_append, List.nil_append]
      rw [lexUnits, hCode]

/- So are all units up to the closing quote. -/
theorem UnitsSpelled.lexUnits_append
    {units : List StringUnit}
    {cs : List Char}
    (hUnits : UnitsSpelled units cs)
    (rest : List Char) :
    lexUnits (cs ++ '"' :: rest) = some (units, rest) := by
  induction hUnits with
  | nil => rw [List.nil_append, lexUnits]
  | cons hFirst hRest ih =>
      rw [List.append_assoc, hFirst.lexUnits_append, ih]
      rfl

/- What has been read of a literal was spelled there. -/
theorem unitsSpelled_of_lexUnits
    {cs rest : List Char}
    {units : List StringUnit}
    (hLex : lexUnits cs = some (units, rest)) :
    ∃ body, UnitsSpelled units body ∧
      cs = body ++ '"' :: rest := by
  fun_induction lexUnits cs generalizing units with
  | case1 => cases hLex
  | case2 more =>
      cases hLex
      exact ⟨[], .nil, rfl⟩
  | case3 a b c d more n hCode ih =>
      rcases Option.map_eq_some_iff.mp hLex with
        ⟨⟨us, r⟩, hMore, hUnits⟩
      cases hUnits
      rcases ih hMore with ⟨body, hBody, rfl⟩
      exact ⟨_, .cons (.code hCode) hBody, rfl⟩
  | case4 => cases hLex
  | case5 e more _ c hEscaped ih =>
      rcases Option.map_eq_some_iff.mp hLex with
        ⟨⟨us, r⟩, hMore, hUnits⟩
      cases hUnits
      rcases ih hMore with ⟨body, hBody, rfl⟩
      exact ⟨_, .cons (.escape hEscaped) hBody, rfl⟩
  | case6 => cases hLex
  | case7 => cases hLex
  | case8 c more hQuote _ _ hPlain ih =>
      rcases Option.map_eq_some_iff.mp hLex with
        ⟨⟨us, r⟩, hMore, hUnits⟩
      cases hUnits
      rcases ih hMore with ⟨body, hBody, rfl⟩
      rw [not_or] at hPlain
      exact ⟨_, .cons (.plain hPlain.1 hQuote hPlain.2) hBody,
        rfl⟩

------------------------------------------------------------
-- Reading Numbers
------------------------------------------------------------

/- A text that does not go on with a number before it. -/
def EndsNumber
    (rest : List Char) :
    Prop :=
  ∀ c ∈ rest.head?, isDigit c = false ∧ c ≠ '.' ∧ c ≠ 'e' ∧
    c ≠ 'E'

/- A text that does not go on with digits before it. -/
def EndsDigits
    (rest : List Char) :
    Prop :=
  ∀ c ∈ rest.head?, isDigit c = false

/- Digits are read up to what is no digit. -/
theorem AreDigits.lexDigits_append
    {digits rest : List Char}
    (hDigits : AreDigits digits)
    (hEnd : EndsDigits rest) :
    lexDigits (digits ++ rest) = some (digits, rest) := by
  have hNone :
      rest.takeWhile isDigit = [] ∧
        rest.dropWhile isDigit = rest := by
    cases rest with
    | nil => exact ⟨rfl, rfl⟩
    | cons c more =>
        have hC : isDigit c = false := hEnd c rfl
        simp [hC]
  unfold lexDigits
  rw [List.takeWhile_append_of_pos hDigits.2,
    List.dropWhile_append_of_pos hDigits.2, hNone.1,
    hNone.2, List.append_nil]
  simp [hDigits.1]

/- What has been read as digits are digits. -/
theorem areDigits_of_lexDigits
    {cs digits rest : List Char}
    (hLex : lexDigits cs = some (digits, rest)) :
    AreDigits digits ∧ cs = digits ++ rest := by
  simp only [lexDigits] at hLex
  split at hLex
  · cases hLex
  · rename_i hSome
    cases hLex
    refine ⟨⟨?_, ?_⟩, ?_⟩
    · simpa using hSome
    · intro c hC
      exact List.mem_takeWhile_imp hC
    · exact List.takeWhile_append_dropWhile.symm

/- A fraction is read if one is written. -/
theorem FractionSpelled.lexFraction_append
    {fraction : Option (List Char)}
    {cs rest : List Char}
    (hFraction : FractionSpelled fraction cs)
    (hEnd : EndsDigits rest)
    (hPoint : rest.head? ≠ some '.') :
    lexFraction (cs ++ rest) = some (fraction, rest) := by
  cases fraction with
  | none =>
      cases hFraction
      rw [List.nil_append, lexFraction]
      rintro more rfl
      exact hPoint rfl
  | some digits =>
      rcases hFraction with ⟨hDigits, rfl⟩
      rw [List.cons_append, lexFraction,
        hDigits.lexDigits_append hEnd]
      rfl

/- What has been read as a fraction was spelled as one. -/
theorem fractionSpelled_of_lexFraction
    {cs rest : List Char}
    {fraction : Option (List Char)}
    (hLex : lexFraction cs = some (fraction, rest)) :
    ∃ spelled, FractionSpelled fraction spelled ∧
      cs = spelled ++ rest := by
  unfold lexFraction at hLex
  split at hLex
  · rcases Option.map_eq_some_iff.mp hLex with
      ⟨⟨digits, more⟩, hDigits, hRead⟩
    cases hRead
    rcases areDigits_of_lexDigits hDigits with ⟨hAll, rfl⟩
    exact ⟨_, ⟨hAll, rfl⟩, rfl⟩
  · cases hLex
    exact ⟨[], rfl, rfl⟩

/- Digits do not begin with a sign. -/
theorem AreDigits.head_ne
    {digits : List Char}
    (hDigits : AreDigits digits)
    {c : Char}
    (hC : isDigit c = false) :
    digits.head? ≠ some c := by
  intro hHead
  have hMem := List.mem_of_head? hHead
  rw [hDigits.2 c hMem] at hC
  cases hC

/- The digits of an exponent are read behind any sign. -/
theorem lexSignedExponent_append
    {e : Exponent}
    {sign rest : List Char}
    (hDigits : AreDigits e.digits)
    (hSign :
      sign = signOf e.negative ∨
        (sign = ['+'] ∧ e.negative = false))
    (hEnd : EndsDigits rest) :
    lexSignedExponent (sign ++ e.digits ++ rest) =
      some (some e, rest) := by
  have hRead :
      ∀ negative, e.negative = negative →
        lexExponentDigits negative (e.digits ++ rest) =
          some (some e, rest) := by
    rintro negative rfl
    unfold lexExponentDigits
    rw [hDigits.lexDigits_append hEnd]
    rfl
  rcases hSign with rfl | ⟨rfl, hPlus⟩
  · cases hNegative : e.negative with
    | true => exact hRead true hNegative
    | false =>
        have hSome : ∃ c more, e.digits = c :: more :=
          List.exists_cons_of_ne_nil hDigits.1
        rcases hSome with ⟨c, more, hCons⟩
        have hPlus :=
          hDigits.head_ne (c := '+') (by decide)
        have hMinus :=
          hDigits.head_ne (c := '-') (by decide)
        have hDefault :
            lexSignedExponent (e.digits ++ rest) =
              lexExponentDigits false (e.digits ++ rest) := by
          rw [hCons] at hPlus hMinus ⊢
          rw [List.cons_append, lexSignedExponent]
          · rintro _ hSame
            cases hSame
            exact hPlus rfl
          · rintro _ hSame
            cases hSame
            exact hMinus rfl
        exact hDefault.trans (hRead false hNegative)
  · exact hRead false hPlus

/- An exponent is read if one is written. -/
theorem ExponentSpelled.lexExponent_append
    {exponent : Option Exponent}
    {cs rest : List Char}
    (hExponent : ExponentSpelled exponent cs)
    (hEnd : EndsNumber rest) :
    lexExponent (cs ++ rest) = some (exponent, rest) := by
  cases exponent with
  | none =>
      cases hExponent
      rw [List.nil_append, lexExponent]
      · rintro more rfl
        exact (hEnd 'e' rfl).2.2.1 rfl
      · rintro more rfl
        exact (hEnd 'E' rfl).2.2.2 rfl
  | some e =>
      rcases hExponent with
        ⟨hDigits, letter, sign, hLetter, hSign, rfl⟩
      have hRead :=
        lexSignedExponent_append hDigits hSign
          (fun c hC => (hEnd c hC).1)
      rcases hLetter with rfl | rfl
      · exact hRead
      · exact hRead

/- What has been read as an exponent was spelled as one. -/
theorem exponentSpelled_of_lexSignedExponent
    {letter : Char}
    {cs rest : List Char}
    {exponent : Option Exponent}
    (hLetter : letter = 'e' ∨ letter = 'E')
    (hLex : lexSignedExponent cs = some (exponent, rest)) :
    ∃ spelled, ExponentSpelled exponent spelled ∧
      letter :: cs = spelled ++ rest := by
  have hSpelled :
      ∀ {negative sign more},
        lexExponentDigits negative more =
            some (exponent, rest) →
          (sign = signOf negative ∨
            (sign = ['+'] ∧ negative = false)) →
          ∃ spelled, ExponentSpelled exponent spelled ∧
            letter :: (sign ++ more) = spelled ++ rest := by
    intro negative sign more hDigits hSign
    rcases Option.map_eq_some_iff.mp hDigits with
      ⟨⟨digits, after⟩, hRead, hSame⟩
    cases hSame
    rcases areDigits_of_lexDigits hRead with ⟨hAll, rfl⟩
    refine ⟨_, ⟨hAll, letter, sign, hLetter, hSign, rfl⟩, ?_⟩
    simp
  unfold lexSignedExponent at hLex
  split at hLex
  · exact hSpelled hLex (.inr ⟨rfl, rfl⟩)
  · exact hSpelled hLex (.inl rfl)
  · have hBare := @hSpelled false [] _ hLex (.inl rfl)
    exact hBare

theorem exponentSpelled_of_lexExponent
    {cs rest : List Char}
    {exponent : Option Exponent}
    (hLex : lexExponent cs = some (exponent, rest)) :
    ∃ spelled, ExponentSpelled exponent spelled ∧
      cs = spelled ++ rest := by
  unfold lexExponent at hLex
  split at hLex
  · exact exponentSpelled_of_lexSignedExponent (.inl rfl) hLex
  · exact exponentSpelled_of_lexSignedExponent (.inr rfl) hLex
  · cases hLex
    exact ⟨[], rfl, rfl⟩

/- What may follow the digits before an exponent. -/
theorem ExponentSpelled.ends
    {exponent : Option Exponent}
    {cs rest : List Char}
    (hExponent : ExponentSpelled exponent cs)
    (hEnd : EndsNumber rest) :
    EndsDigits (cs ++ rest) ∧
      (cs ++ rest).head? ≠ some '.' := by
  cases exponent with
  | none =>
      cases hExponent
      refine ⟨fun c hC => (hEnd c hC).1, ?_⟩
      intro hPoint
      exact (hEnd '.' hPoint).2.1 rfl
  | some e =>
      rcases hExponent with
        ⟨-, letter, sign, hLetter, -, rfl⟩
      rcases hLetter with rfl | rfl
      · refine ⟨?_, by simp⟩
        rintro c ⟨⟩
        decide
      · refine ⟨?_, by simp⟩
        rintro c ⟨⟩
        decide

/- What may follow the digits before a fraction. -/
theorem FractionSpelled.endsDigits
    {fraction : Option (List Char)}
    {cs rest : List Char}
    (hFraction : FractionSpelled fraction cs)
    (hEnd : EndsDigits rest) :
    EndsDigits (cs ++ rest) := by
  cases fraction with
  | none =>
      cases hFraction
      exact hEnd
  | some digits =>
      rcases hFraction with ⟨-, rfl⟩
      rintro c ⟨⟩
      decide

/- A number is read up to what does not go on with it. -/
theorem Numeral.SpelledAs.lex_append
    {n : Numeral}
    {cs rest : List Char}
    (hNumeral : n.SpelledAs cs)
    (hEnd : EndsNumber rest) :
    Numeral.lex (cs ++ rest) = some (n, rest) := by
  rcases hNumeral with
    ⟨hWhole, hBegun, fraction, exponent, hFraction, hExponent,
      rfl⟩
  rcases hExponent.ends hEnd with ⟨hAfter, hPoint⟩
  have hUnsigned :
      Numeral.lexUnsigned n.negative
          (n.whole ++ (fraction ++ (exponent ++ rest))) =
        some (n, rest) := by
    unfold Numeral.lexUnsigned
    rw [hWhole.lexDigits_append
      (hFraction.endsDigits hAfter)]
    simp only [Option.bind_eq_bind, Option.bind_some, hBegun,
      if_true]
    rw [hFraction.lexFraction_append hAfter hPoint]
    simp only [Option.bind_some]
    rw [hExponent.lexExponent_append hEnd]
    rfl
  cases hNegative : n.negative with
  | true =>
      rw [hNegative] at hUnsigned
      simpa [signOf, Numeral.lex] using hUnsigned
  | false =>
      rw [hNegative] at hUnsigned
      have hSome : ∃ c more, n.whole = c :: more :=
        List.exists_cons_of_ne_nil hWhole.1
      rcases hSome with ⟨c, more, hCons⟩
      have hMinus := hWhole.head_ne (c := '-') (by decide)
      rw [hCons] at hMinus hUnsigned
      simp only [signOf, List.nil_append, List.append_assoc,
        hCons]
      rw [List.cons_append] at hUnsigned ⊢
      rw [Numeral.lex]
      · exact hUnsigned
      · rintro _ hSame
        cases hSame
        exact hMinus rfl

/- What has been read as a number was spelled as one. -/
theorem numeralSpelled_of_lex
    {cs rest : List Char}
    {n : Numeral}
    (hLex : Numeral.lex cs = some (n, rest)) :
    ∃ spelled, n.SpelledAs spelled ∧ cs = spelled ++ rest := by
  have hSpelled :
      ∀ {negative more},
        Numeral.lexUnsigned negative more = some (n, rest) →
          ∃ spelled, n.SpelledAs spelled ∧
            signOf negative ++ more = spelled ++ rest := by
    intro negative more hUnsigned
    simp only [Numeral.lexUnsigned, Option.bind_eq_bind,
      Option.bind_eq_some_iff] at hUnsigned
    rcases hUnsigned with ⟨⟨whole, r₁⟩, hWhole, hRest⟩
    split at hRest
    · rename_i hBegun
      simp only [Option.bind_eq_some_iff] at hRest
      rcases hRest with
        ⟨⟨fraction, r₂⟩, hFraction, ⟨exponent, r₃⟩, hExponent,
          hSame⟩
      cases hSame
      rcases areDigits_of_lexDigits hWhole with ⟨hAll, rfl⟩
      rcases fractionSpelled_of_lexFraction hFraction with
        ⟨spelled₁, hSpelled₁, hCut₁⟩
      rcases exponentSpelled_of_lexExponent hExponent with
        ⟨spelled₂, hSpelled₂, hCut₂⟩
      refine ⟨_, ⟨hAll, hBegun, spelled₁, spelled₂, hSpelled₁,
        hSpelled₂, rfl⟩, ?_⟩
      simp only at hCut₁ hCut₂
      rw [hCut₁, hCut₂]
      simp
    · cases hRest
  unfold Numeral.lex at hLex
  split at hLex
  · exact hSpelled hLex
  · exact hSpelled hLex

------------------------------------------------------------
-- Reading Tokens
------------------------------------------------------------

/- Space does not go on with a number. -/
theorem endsNumber_of_isSpace
    {c : Char}
    {rest : List Char}
    (hSpace : isSpace c = true) :
    EndsNumber (c :: rest) := by
  rintro d ⟨⟩
  simp only [isSpace, Bool.or_eq_true, beq_iff_eq] at hSpace
  rcases hSpace with ((rfl | rfl) | rfl) | rfl <;> decide

/- Neither do the marks that divide values. -/
theorem Token.SpelledAs.endsNumber
    {t : Token}
    {cs : List Char}
    (hToken : t.SpelledAs cs)
    (hDivider : t.isDivider = true)
    (rest : List Char) :
    EndsNumber (cs ++ rest) := by
  cases hToken with
  | comma =>
      rintro c ⟨⟩
      decide
  | endArray =>
      rintro c ⟨⟩
      decide
  | endObject =>
      rintro c ⟨⟩
      decide
  | _ => cases hDivider

/- So a number ends before what may come after it. -/
theorem TokensSpelled.endsNumber
    {ts : List Token}
    {cs : List Char}
    (hTokens : TokensSpelled ts cs)
    (hDivider : ∀ t ∈ ts.head?, t.isDivider = true) :
    EndsNumber cs := by
  cases hTokens with
  | nil hSpace =>
      cases cs with
      | nil =>
          rintro c ⟨⟩
      | cons c cs =>
          exact endsNumber_of_isSpace
            (hSpace c List.mem_cons_self)
  | @cons t ts space token rest hSpace hFirst hRest =>
      cases space with
      | nil => exact hFirst.endsNumber (hDivider t rfl) rest
      | cons c space =>
          exact endsNumber_of_isSpace
            (hSpace c List.mem_cons_self)

/- A sign or a digit begins a number. -/
theorem lexToken_number
    {c : Char}
    (hC : c = '-' ∨ isDigit c = true)
    (rest : List Char) :
    lexToken c rest = lexNumber (c :: rest) := by
  unfold lexToken
  split
  case h_11 => rfl
  all_goals exact absurd hC (by decide)

/- A number begins with a sign or a digit. -/
theorem Numeral.SpelledAs.exists_cons
    {n : Numeral}
    {cs : List Char}
    (hNumeral : n.SpelledAs cs) :
    ∃ c more, cs = c :: more ∧
      (c = '-' ∨ isDigit c = true) := by
  rcases hNumeral with
    ⟨hWhole, -, fraction, exponent, -, -, rfl⟩
  cases n.negative with
  | true => exact ⟨'-', _, rfl, .inl rfl⟩
  | false =>
      rcases List.exists_cons_of_ne_nil hWhole.1 with
        ⟨c, more, hCons⟩
      have hDigit : isDigit c = true :=
        hWhole.2 c (hCons ▸ List.mem_cons_self)
      rw [hCons]
      exact ⟨c, _, rfl, .inr hDigit⟩

/- No sign or digit is space. -/
theorem isSpace_eq_false
    {c : Char}
    (hC : c = '-' ∨ isDigit c = true) :
    isSpace c = false := by
  cases hSpace : isSpace c with
  | false => rfl
  | true =>
      have hEnd : EndsNumber [c] :=
        endsNumber_of_isSpace hSpace
      rcases hC with rfl | hDigit
      · exact hSpace.symm
      · rw [(hEnd c rfl).1] at hDigit
        cases hDigit

/- A token is read off the front of a text. -/
theorem Token.SpelledAs.lexToken_append
    {t : Token}
    {cs rest : List Char}
    (hToken : t.SpelledAs cs)
    (hEnd : ∀ n, t = .number n → EndsNumber rest) :
    ∃ c more, cs = c :: more ∧ isSpace c = false ∧
      lexToken c (more ++ rest) = (t, rest) := by
  cases hToken with
  | beginArray => exact ⟨'[', [], rfl, rfl, rfl⟩
  | endArray => exact ⟨']', [], rfl, rfl, rfl⟩
  | beginObject => exact ⟨'\x7b', [], rfl, rfl, rfl⟩
  | endObject => exact ⟨'\x7d', [], rfl, rfl, rfl⟩
  | colon => exact ⟨':', [], rfl, rfl, rfl⟩
  | comma => exact ⟨',', [], rfl, rfl, rfl⟩
  | null =>
      refine ⟨'n', "ull".toList, by decide, rfl, ?_⟩
      exact lexWord_append .null "ull" rest
  | yes =>
      refine ⟨'t', "rue".toList, by decide, rfl, ?_⟩
      exact lexWord_append (.bool true) "rue" rest
  | no =>
      refine ⟨'f', "alse".toList, by decide, rfl, ?_⟩
      exact lexWord_append (.bool false) "alse" rest
  | @number n cs hNumeral =>
      rcases hNumeral.exists_cons with ⟨c, more, rfl, hC⟩
      refine ⟨c, more, rfl, isSpace_eq_false hC, ?_⟩
      rw [lexToken_number hC, lexNumber, ← List.cons_append,
        hNumeral.lex_append (hEnd n rfl)]
      rfl
  | @string units cs hUnits =>
      refine ⟨'"', cs ++ ['"'], rfl, rfl, ?_⟩
      rw [List.append_assoc]
      have hLex :
          lexString (cs ++ '"' :: rest) =
            (.string ((decodeUnits units).map String.ofList),
              rest) := by
        unfold lexString
        rw [hUnits.lexUnits_append]
        rfl
      exact hLex

/- Space in front of a text does not change its tokens. -/
theorem tokens_spacing_append
    {space : List Char}
    (hSpace : IsSpacing space)
    (cs : List Char) :
    tokens (space ++ cs) = tokens cs := by
  have hSkip : skipSpace (space ++ cs) = skipSpace cs :=
    List.dropWhile_append_of_pos hSpace
  rw [tokens, tokens, hSkip]

/- The tokens of a text are the ones that spell it. -/
theorem tokens_eq_of_spelled
    {ts : List Token}
    {cs : List Char}
    (hTokens : TokensSpelled ts cs)
    (hSeparated : Separated ts) :
    tokens cs = ts := by
  induction hTokens with
  | @nil space hSpace =>
      have hNone : tokens ([] : List Char) = [] := by
        rw [tokens]
        rfl
      rw [← List.append_nil space, tokens_spacing_append hSpace,
        hNone]
  | @cons t ts space cs rest hSpace hFirst hRest ih =>
      have hMore : Separated ts ∧
          ∀ n, t = .number n → EndsNumber rest := by
        cases t with
        | number n =>
            cases ts with
            | nil =>
                refine ⟨trivial, fun _ _ => ?_⟩
                exact hRest.endsNumber (by rintro _ ⟨⟩)
            | cons next ts =>
                refine ⟨hSeparated.2, fun _ _ => ?_⟩
                apply hRest.endsNumber
                rintro _ ⟨⟩
                exact hSeparated.1
        | _ => exact ⟨hSeparated, by rintro _ ⟨⟩⟩
      rcases hFirst.lexToken_append hMore.2 with
        ⟨c, more, rfl, hC, hLex⟩
      rw [List.append_assoc, tokens_spacing_append hSpace,
        List.cons_append, tokens_cons hC, hLex]
      rw [ih hMore.1]

------------------------------------------------------------
-- Spelling Tokens
------------------------------------------------------------

/- What was there is what has been read. -/
theorem orBad_eq
    {read : Option (Token × List Char)}
    {t : Token}
    {rest : List Char}
    (hRead : orBad read = (t, rest))
    (hGood : t ≠ .bad) :
    read = some (t, rest) := by
  cases read with
  | none =>
      cases hRead
      exact absurd rfl hGood
  | some pair => exact congrArg some hRead

/- What follows a word came behind it. -/
theorem eq_append_of_afterWord
    {word cs rest : List Char}
    (hAfter : afterWord word cs = some rest) :
    cs = word ++ rest := by
  induction word generalizing cs with
  | nil => exact Option.some.inj hAfter
  | cons w word ih =>
      cases cs with
      | nil => cases hAfter
      | cons c cs =>
          rw [afterWord] at hAfter
          split at hAfter
          · rename_i hSame
            rw [hSame, ih hAfter, List.cons_append]
          · cases hAfter

/- What has been read as a word was that word. -/
theorem eq_append_of_lexWord
    {token t : Token}
    {word : String}
    {cs rest : List Char}
    (hRead : lexWord token word cs = (t, rest))
    (hGood : t ≠ .bad) :
    t = token ∧ cs = word.toList ++ rest := by
  rcases Option.map_eq_some_iff.mp (orBad_eq hRead hGood) with
    ⟨more, hAfter, hSame⟩
  cases hSame
  exact ⟨rfl, eq_append_of_afterWord hAfter⟩

/- What has been read as a token was spelled as that token. -/
theorem tokenSpelled_of_lexToken
    {c : Char}
    {cs rest : List Char}
    {t : Token}
    (hRead : lexToken c cs = (t, rest))
    (hGood : t ≠ .bad) :
    ∃ spelled, t.SpelledAs spelled ∧
      c :: cs = spelled ++ rest := by
  unfold lexToken at hRead
  split at hRead
  · cases hRead
    exact ⟨_, .beginArray, rfl⟩
  · cases hRead
    exact ⟨_, .endArray, rfl⟩
  · cases hRead
    exact ⟨_, .beginObject, rfl⟩
  · cases hRead
    exact ⟨_, .endObject, rfl⟩
  · cases hRead
    exact ⟨_, .colon, rfl⟩
  · cases hRead
    exact ⟨_, .comma, rfl⟩
  · rcases eq_append_of_lexWord hRead hGood with ⟨rfl, rfl⟩
    exact ⟨_, .null, by simp⟩
  · rcases eq_append_of_lexWord hRead hGood with ⟨rfl, rfl⟩
    exact ⟨_, .yes, by simp⟩
  · rcases eq_append_of_lexWord hRead hGood with ⟨rfl, rfl⟩
    exact ⟨_, .no, by simp⟩
  · rcases Option.map_eq_some_iff.mp
        (orBad_eq hRead hGood) with
      ⟨⟨units, more⟩, hUnits, hSame⟩
    cases hSame
    rcases unitsSpelled_of_lexUnits hUnits with
      ⟨body, hBody, rfl⟩
    exact ⟨_, .string hBody, by simp⟩
  · rcases Option.map_eq_some_iff.mp
        (orBad_eq hRead hGood) with
      ⟨⟨n, more⟩, hNumeral, hSame⟩
    cases hSame
    rcases numeralSpelled_of_lex hNumeral with
      ⟨spelled, hSpelled, hCut⟩
    exact ⟨spelled, .number hSpelled, hCut⟩

/- A text is spelled from its tokens if all are good. -/
theorem tokensSpelled_tokens
    {cs : List Char}
    (hGood : .bad ∉ tokens cs) :
    TokensSpelled (tokens cs) cs := by
  have hSplit (cs : List Char) :
      IsSpacing (cs.takeWhile isSpace) ∧
        cs = cs.takeWhile isSpace ++ skipSpace cs := by
    refine ⟨fun c hC => List.mem_takeWhile_imp hC, ?_⟩
    exact List.takeWhile_append_dropWhile.symm
  fun_induction tokens cs with
  | case1 cs hSkip =>
      rcases hSplit cs with ⟨hSpace, hCut⟩
      rw [hSkip, List.append_nil] at hCut
      rw [hCut]
      exact .nil hSpace
  | case2 cs c rest hSkip ih =>
      rw [List.mem_cons, not_or] at hGood
      rcases hSplit cs with ⟨hSpace, hCut⟩
      rcases tokenSpelled_of_lexToken (Prod.eta _).symm
          (Ne.symm hGood.1) with
        ⟨spelled, hToken, hRest⟩
      have hAll :=
        TokensSpelled.cons hSpace hToken (ih hGood.2)
      rw [List.append_assoc, ← hRest, ← hSkip, ← hCut] at hAll
      exact hAll

end ClientGen.Json
