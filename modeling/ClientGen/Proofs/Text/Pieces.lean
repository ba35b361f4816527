import ClientGen.Java.Name

/-
  Texts cut at separators and put together again.

  Main declarations include:
    * `pieces_append_cons`
    * `pieces_eq_singleton`
    * `toList_joinWith_pieces`
    * `joinWith_pieces`
    * `pieces_injective`
    * `pieces_map_replace`
    * `pieces_isIdentifier`

  Cutting is inverse to joining, also where the pieces are
  joined by another separator than the one they were cut at.
-/

namespace ClientGen.Text

variable {separator : Char}

------------------------------------------------------------
-- Cutting
------------------------------------------------------------

/- There is always a first piece. -/
theorem pieces_ne_nil
    (cs : List Char) :
    pieces separator cs ≠ [] := by
  cases cs with
  | nil => simp [pieces]
  | cons c rest =>
      unfold pieces
      by_cases hC : c = separator
      · simp [hC]
      · rw [if_neg hC]
        cases pieces separator rest <;> simp

/- A separator starts a new piece. -/
@[simp]
theorem pieces_separator_cons
    (rest : List Char) :
    pieces separator (separator :: rest) =
      [] :: pieces separator rest := by
  simp [pieces]

/- Any other character belongs to the first piece. -/
theorem pieces_cons_of_ne
    {c : Char}
    {rest piece : List Char}
    {more : List (List Char)}
    (hC : c ≠ separator)
    (hRest : pieces separator rest = piece :: more) :
    pieces separator (c :: rest) = (c :: piece) :: more := by
  simp [pieces, hC, hRest]

/- A separator between two texts ends a piece. -/
theorem pieces_append_cons
    (before after : List Char) :
    pieces separator (before ++ separator :: after) =
      pieces separator before ++ pieces separator after := by
  induction before with
  | nil => simp [pieces]
  | cons c before ih =>
      by_cases hC : c = separator
      · subst hC
        simp [ih]
      · cases hBefore : pieces separator before with
        | nil => exact absurd hBefore (pieces_ne_nil before)
        | cons piece more =>
            rw [hBefore] at ih
            rw [List.cons_append,
              pieces_cons_of_ne hC hBefore,
              pieces_cons_of_ne hC ih]
            rfl

/- A text without separators is a single piece. -/
theorem pieces_eq_singleton
    {cs : List Char}
    (hNone : separator ∉ cs) :
    pieces separator cs = [cs] := by
  induction cs with
  | nil => rfl
  | cons c rest ih =>
      rw [List.mem_cons, not_or] at hNone
      exact pieces_cons_of_ne (Ne.symm hNone.1)
        (ih hNone.2)

/- More characters belong to the last piece. -/
theorem pieces_append_of_not_mem
    {cs more piece : List Char}
    {front : List (List Char)}
    (hPieces : pieces separator cs = front ++ [piece])
    (hNone : separator ∉ more) :
    pieces separator (cs ++ more) =
      front ++ [piece ++ more] := by
  induction cs generalizing front piece with
  | nil =>
      rcases List.append_eq_singleton_iff.mp hPieces.symm with
        ⟨rfl, hPiece⟩ | ⟨-, hPiece⟩
      · cases hPiece
        exact pieces_eq_singleton hNone
      · cases hPiece
  | cons c rest ih =>
      cases hRest : pieces separator rest with
      | nil => exact absurd hRest (pieces_ne_nil rest)
      | cons next others =>
          by_cases hC : c = separator
          · subst hC
            rw [pieces_separator_cons, hRest] at hPieces
            rw [List.cons_append, pieces_separator_cons]
            cases front with
            | nil => cases hPieces
            | cons first front =>
                rcases List.cons.inj hPieces with ⟨rfl, hSame⟩
                rw [ih (hRest.trans hSame)]
                rfl
          · rw [pieces_cons_of_ne hC hRest] at hPieces
            cases front with
            | nil =>
                cases hPieces
                have hMore :
                    pieces separator (rest ++ more) =
                      [] ++ [next ++ more] :=
                  ih hRest
                exact pieces_cons_of_ne hC hMore
            | cons first front =>
                -- The character belongs to an earlier piece.
                cases hPieces
                have hMore :
                    pieces separator (rest ++ more) =
                      (next :: front) ++ [piece ++ more] :=
                  ih hRest
                exact pieces_cons_of_ne hC hMore

/- Every character is a separator or in a piece. -/
theorem mem_pieces
    {c : Char}
    {cs : List Char}
    (hMem : c ∈ cs) :
    c = separator ∨
      ∃ piece ∈ pieces separator cs, c ∈ piece := by
  induction cs with
  | nil => cases hMem
  | cons d rest ih =>
      by_cases hD : d = separator
      · subst hD
        rw [pieces_separator_cons]
        rcases List.mem_cons.mp hMem with rfl | hRest
        · exact .inl rfl
        · rcases ih hRest with hC | ⟨piece, hPiece, hC⟩
          · exact .inl hC
          · exact .inr ⟨piece, by simp [hPiece], hC⟩
      · cases hRest : pieces separator rest with
        | nil => exact absurd hRest (pieces_ne_nil rest)
        | cons first more =>
            rw [pieces_cons_of_ne hD hRest]
            rw [hRest] at ih
            rcases List.mem_cons.mp hMem with rfl | hIn
            · exact .inr ⟨c :: first, by simp, by simp⟩
            · rcases ih hIn with hC | ⟨piece, hPiece, hC⟩
              · exact .inl hC
              · rcases List.mem_cons.mp hPiece with
                  rfl | hPiece
                · exact .inr ⟨d :: piece, by simp, by simp [hC]⟩
                · exact .inr ⟨piece, by simp [hPiece], hC⟩

------------------------------------------------------------
-- Joining
------------------------------------------------------------

/- One character for another. -/
def replaceChar
    (old new c : Char) :
    Char :=
  if c = old then new else c

/- The pieces joined by another separator. -/
theorem toList_joinWith_pieces
    (other : Char)
    (cs : List Char) :
    (joinWith (String.singleton other)
        ((pieces separator cs).map String.ofList)).toList =
      cs.map (replaceChar separator other) := by
  induction cs with
  | nil => simp [pieces, joinWith]
  | cons c rest ih =>
      cases hRest : pieces separator rest with
      | nil => exact absurd hRest (pieces_ne_nil rest)
      | cons piece more =>
          rw [hRest] at ih
          by_cases hC : c = separator
          · subst hC
            rw [pieces_separator_cons, hRest]
            simp only [List.map_cons, joinWith,
              String.toList_append] at ih ⊢
            rw [ih]
            simp [replaceChar]
          · rw [pieces_cons_of_ne hC hRest, List.map_cons,
              List.map_cons, ← ih]
            cases more <;>
              simp [joinWith, replaceChar, hC]

/- The pieces joined by the separator they were cut at. -/
theorem joinWith_pieces
    (separator : Char)
    (s : String) :
    joinWith (String.singleton separator)
        ((pieces separator s.toList).map String.ofList) =
      s := by
  have hSame : replaceChar separator separator = id := by
    funext c
    by_cases hC : c = separator <;> simp [replaceChar, hC]
  apply String.toList_injective
  rw [toList_joinWith_pieces, hSame, List.map_id]

/- A text is known by its pieces. -/
theorem pieces_injective
    {cs ds : List Char}
    (hPieces : pieces separator cs = pieces separator ds) :
    cs = ds := by
  have hText : String.ofList cs = String.ofList ds := by
    rw [← joinWith_pieces separator (String.ofList cs),
      ← joinWith_pieces separator (String.ofList ds),
      String.toList_ofList, String.toList_ofList, hPieces]
  exact String.ofList_injective hText

/- Such a text has the same pieces at the other separator. -/
theorem pieces_map_replace
    {other : Char}
    {cs : List Char}
    (hNone : other ∉ cs) :
    pieces other (cs.map (replaceChar separator other)) =
      pieces separator cs := by
  induction cs with
  | nil => rfl
  | cons c rest ih =>
      rw [List.mem_cons, not_or] at hNone
      have hRest := ih hNone.2
      by_cases hC : c = separator
      · subst hC
        simp [replaceChar, hRest]
      · cases hPieces : pieces separator rest with
        | nil => exact absurd hPieces (pieces_ne_nil rest)
        | cons piece more =>
            rw [hPieces] at hRest
            rw [pieces_cons_of_ne hC hPieces, List.map_cons]
            simp only [replaceChar, if_neg hC]
            exact pieces_cons_of_ne (Ne.symm hNone.1) hRest

end ClientGen.Text

namespace ClientGen.Java

open ClientGen.Text

------------------------------------------------------------
-- Identifiers
------------------------------------------------------------

/- The form of an identifier leaves no other characters. -/
theorem all_isIdentifierPart_of_form
    {chars : List Char}
    (hForm : hasIdentifierForm chars = true) :
    chars ≠ [] ∧ ∀ c ∈ chars, isIdentifierPart c = true := by
  cases chars with
  | nil => cases hForm
  | cons c rest =>
      simp only [hasIdentifierForm, Bool.and_eq_true,
        List.all_eq_true] at hForm
      refine ⟨List.cons_ne_nil c rest, ?_⟩
      rw [List.forall_mem_cons]
      refine ⟨?_, hForm.2⟩
      unfold isIdentifierPart
      rw [hForm.1, Bool.true_or]

/- The characters of an identifier can go on with one. -/
theorem all_isIdentifierPart
    {name : String}
    (hName : isIdentifier name = true) :
    name ≠ "" ∧ ∀ c ∈ name.toList, isIdentifierPart c = true := by
  unfold isIdentifier at hName
  rw [Bool.and_eq_true] at hName
  rcases all_isIdentifierPart_of_form hName.1 with
    ⟨hSome, hParts⟩
  exact ⟨fun hNone => hSome (by rw [hNone]; rfl), hParts⟩

/- There is no dot among them. -/
theorem undotted_of_isIdentifier
    {name : String}
    (hName : isIdentifier name = true) :
    '.' ∉ name.toList := by
  intro hDot
  have hPart := (all_isIdentifierPart hName).2 '.' hDot
  cases hPart

/- The parts of a qualified name are identifiers. -/
theorem pieces_isIdentifier
    {name : String}
    (hName : isQualifiedName name = true)
    {piece : List Char}
    (hPiece : piece ∈ pieces '.' name.toList) :
    isIdentifier (String.ofList piece) = true :=
  List.all_eq_true.mp hName piece hPiece

end ClientGen.Java
