import ClientGen.Json.Token

/-
  The tokens of a text that was written from tokens.

  Main declarations include:
    * `lexUnits_encodeChar`
    * `lexString_encode`
    * `Token.isPlain`
    * `tokens_flatMap_spell`

  Each token is read off the front of the text whatever comes
  after it.  That does not hold of numbers, which go on as
  long as there are digits.
-/

namespace ClientGen.Json

------------------------------------------------------------
-- Characters of Strings
------------------------------------------------------------

/- The unit adds the character to the text of those after. -/
def StringUnit.StandsFor
    (u : StringUnit)
    (c : Char) :
    Prop :=
  ∀ units,
    decodeUnits (u :: units) =
      (decodeUnits units).map (c :: ·)

/- A character stands for itself. -/
theorem StringUnit.StandsFor.char
    (c : Char) :
    (StringUnit.char c).StandsFor c := by
  intro units
  rw [decodeUnits]

/- A code below the surrogates stands for its character. -/
theorem StringUnit.StandsFor.code
    {c : Char}
    (hControl : c.toNat < 32) :
    (StringUnit.code c.toNat).StandsFor c := by
  have hHigh : isHighSurrogate c.toNat = false := by
    simp [isHighSurrogate]
    omega
  have hLow : isLowSurrogate c.toNat = false := by
    simp [isLowSurrogate]
    omega
  intro units
  cases units with
  | nil => simp [decodeUnits, hHigh, hLow]
  | cons u units =>
      cases u with
      | char d => simp [decodeUnits, hHigh, hLow]
      | code low => simp [decodeUnits, hHigh, hLow]

/- A control has a code of two digits after the zeros. -/
theorem hexCode_control
    {n : Nat}
    (hControl : n < 32) :
    hexCode '0' '0' (hexDigit (n / 16)) (hexDigit (n % 16)) =
      some n := by
  have hAll :
      ∀ n < 32,
        hexCode '0' '0' (hexDigit (n / 16))
          (hexDigit (n % 16)) = some n := by
    decide
  exact hAll n hControl

/- Controls come before the space. -/
theorem lt_space_iff
    (c : Char) :
    c < ' ' ↔ c.toNat < 32 :=
  Iff.rfl

/- A backslash and a letter are read as one character. -/
theorem lexUnits_escape
    {e c : Char}
    (rest : List Char)
    (hUnicode : e ≠ 'u')
    (hEscaped : escapedChar e = some c) :
    ∃ u : StringUnit, u.StandsFor c ∧
      lexUnits (['\\', e] ++ rest) =
        (lexUnits rest).map (withUnit u) := by
  refine ⟨.char c, .char c, ?_⟩
  rw [List.cons_append, List.singleton_append, lexUnits]
  · rw [hEscaped]
  · rintro _ _ _ _ _ rfl
    exact absurd rfl hUnicode

/- An encoded character is read as a unit for it. -/
theorem lexUnits_encodeChar
    (c : Char)
    (rest : List Char) :
    ∃ u : StringUnit, u.StandsFor c ∧
      lexUnits (encodeChar c ++ rest) =
        (lexUnits rest).map (withUnit u) := by
  unfold encodeChar
  by_cases hMark : c = '"' ∨ c = '\\'
  · rw [if_pos hMark]
    rcases hMark with rfl | rfl
    · exact lexUnits_escape rest (by decide) rfl
    · exact lexUnits_escape rest (by decide) rfl
  rw [if_neg hMark]
  by_cases hBackspace : c = '\x08'
  · subst hBackspace
    exact lexUnits_escape rest (by decide) rfl
  rw [if_neg hBackspace]
  by_cases hTab : c = '\t'
  · subst hTab
    exact lexUnits_escape rest (by decide) rfl
  rw [if_neg hTab]
  by_cases hLine : c = '\n'
  · subst hLine
    exact lexUnits_escape rest (by decide) rfl
  rw [if_neg hLine]
  by_cases hPage : c = '\x0c'
  · subst hPage
    exact lexUnits_escape rest (by decide) rfl
  rw [if_neg hPage]
  by_cases hReturn : c = '\r'
  · subst hReturn
    exact lexUnits_escape rest (by decide) rfl
  rw [if_neg hReturn]
  by_cases hControl : c < ' '
  · rw [if_pos hControl]
    rw [lt_space_iff] at hControl
    refine ⟨.code c.toNat, .code hControl, ?_⟩
    simp only [List.cons_append, List.nil_append]
    rw [lexUnits, hexCode_control hControl]
  · rw [if_neg hControl]
    rw [not_or] at hMark
    refine ⟨.char c, .char c, ?_⟩
    rw [List.singleton_append, lexUnits]
    · simp [hControl, hMark.2]
    · exact hMark.1
    · intro _ _ _ _ _ hSlash
      exact absurd hSlash hMark.2
    · intro _ _ hSlash
      exact absurd hSlash hMark.2

/- The literal of a text is read as that text. -/
theorem lexString_encode
    (text : String)
    (rest : List Char) :
    lexString (text.toList.flatMap encodeChar ++ '"' :: rest) =
      (.string (some text), rest) := by
  have hUnits :
      ∀ cs : List Char, ∃ units,
        decodeUnits units = some cs ∧
          lexUnits (cs.flatMap encodeChar ++ '"' :: rest) =
            some (units, rest) := by
    intro cs
    induction cs with
    | nil => exact ⟨[], rfl, by simp [lexUnits]⟩
    | cons c cs ih =>
        rcases ih with ⟨units, hText, hLex⟩
        rcases lexUnits_encodeChar c
            (cs.flatMap encodeChar ++ '"' :: rest) with
          ⟨u, hStands, hFirst⟩
        refine ⟨u :: units, ?_, ?_⟩
        · rw [hStands, hText]
          rfl
        · rw [List.flatMap_cons, List.append_assoc, hFirst,
            hLex]
          rfl
  rcases hUnits text.toList with ⟨units, hText, hLex⟩
  unfold lexString
  rw [hLex]
  simp [orBad, hText]

------------------------------------------------------------
-- Words
------------------------------------------------------------

/- A word is found in front of anything. -/
theorem afterWord_append
    (word rest : List Char) :
    afterWord word (word ++ rest) = some rest := by
  induction word with
  | nil => rfl
  | cons w word ih =>
      rw [List.cons_append, afterWord, if_pos rfl, ih]

/- A word is read as the token it stands for. -/
theorem lexWord_append
    (token : Token)
    (word : String)
    (rest : List Char) :
    lexWord token word (word.toList ++ rest) =
      (token, rest) := by
  unfold lexWord
  rw [afterWord_append]
  rfl

------------------------------------------------------------
-- Tokens
------------------------------------------------------------

/- A token that can be read whatever comes after it. -/
def Token.isPlain : Token → Bool
  | .number _ => false
  | .string s => s.isSome
  | .bad => false
  | _ => true

/- The written token is read off the front of a text. -/
theorem lexToken_spell
    {t : Token}
    (hPlain : t.isPlain = true)
    (rest : List Char) :
    ∃ c cs, t.spell = c :: cs ∧ isSpace c = false ∧
      lexToken c (cs ++ rest) = (t, rest) := by
  cases t with
  | beginArray => exact ⟨'[', [], rfl, rfl, rfl⟩
  | endArray => exact ⟨']', [], rfl, rfl, rfl⟩
  | beginObject => exact ⟨'\x7b', [], rfl, rfl, rfl⟩
  | endObject => exact ⟨'\x7d', [], rfl, rfl, rfl⟩
  | colon => exact ⟨':', [], rfl, rfl, rfl⟩
  | comma => exact ⟨',', [], rfl, rfl, rfl⟩
  | null =>
      refine ⟨'n', "ull".toList, by decide, rfl, ?_⟩
      exact lexWord_append .null "ull" rest
  | bool b =>
      cases b with
      | true =>
          refine ⟨'t', "rue".toList, by decide, rfl, ?_⟩
          exact lexWord_append (.bool true) "rue" rest
      | false =>
          refine ⟨'f', "alse".toList, by decide, rfl, ?_⟩
          exact lexWord_append (.bool false) "alse" rest
  | number n => cases hPlain
  | string s =>
      rcases Option.isSome_iff_exists.mp hPlain with
        ⟨text, rfl⟩
      refine ⟨'"', text.toList.flatMap encodeChar ++ ['"'],
        rfl, rfl, ?_⟩
      rw [List.append_assoc]
      exact lexString_encode text rest
  | bad => cases hPlain

/- A text without space at the front begins with a token. -/
theorem tokens_cons
    {c : Char}
    {rest : List Char}
    (hSpace : isSpace c = false) :
    tokens (c :: rest) =
      (lexToken c rest).1 :: tokens (lexToken c rest).2 := by
  have hSkip : skipSpace (c :: rest) = c :: rest := by
    simp [skipSpace, hSpace]
  rw [tokens]
  split
  · rename_i hNone
    rw [hSkip] at hNone
    cases hNone
  · rename_i d more hSome
    rw [hSkip] at hSome
    cases hSome
    rfl

/- The tokens of a text that was written from tokens. -/
theorem tokens_flatMap_spell
    {ts : List Token}
    (hPlain : ∀ t ∈ ts, t.isPlain = true) :
    tokens (ts.flatMap Token.spell) = ts := by
  induction ts with
  | nil =>
      rw [List.flatMap_nil, tokens]
      rfl
  | cons t ts ih =>
      rcases List.forall_mem_cons.mp hPlain with
        ⟨hFirst, hRest⟩
      rcases
          lexToken_spell hFirst (ts.flatMap Token.spell) with
        ⟨c, cs, hSpell, hSpace, hLex⟩
      rw [List.flatMap_cons, hSpell, List.cons_append,
        tokens_cons hSpace, hLex]
      simp only [ih hRest]

end ClientGen.Json
