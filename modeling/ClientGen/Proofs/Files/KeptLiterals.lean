import ClientGen.Proofs.Files.CleanedTexts
import ClientGen.Proofs.Java.Emission
import ClientGen.Proofs.Java.LiteralReading

/-
  Literals on their way into a file.

  Main declarations include:
    * `exists_lines_append`
    * `exists_append_lines`
    * `exists_cleaned_append`
    * `Code.ofFormat_literal`
    * `Page.exists_text_putParts`
    * `literal_roundTrip`

  A text within a line that does not end in a blank is kept by
  cleaning, whatever stands around it.  So is a text within a
  line by setting it down on a page.  Literals are both.
-/

namespace ClientGen.Text

------------------------------------------------------------
-- Texts amid a Line
------------------------------------------------------------

/-
  A text in front adds lines of its own and the beginning of
  the first line behind it.
-/
theorem exists_lines_append
    (front : List Char) :
    ∃ rows begun, ∀ {text line more},
      text.head? ≠ some '\n' →
      lines text = line :: more →
        lines (front ++ text) =
          rows ++ (begun ++ line) :: more := by
  induction front with
  | nil => exact ⟨[], [], fun _ hText => hText⟩
  | cons c front ih =>
      rcases ih with ⟨rows, begun, hFront⟩
      by_cases hFeed : c = '\n'
      · subst hFeed
        refine ⟨[] :: rows, begun, ?_⟩
        intro text line more hHead hText
        rw [List.cons_append, lines_newline_cons,
          hFront hHead hText]
        rfl
      by_cases hPair : c = '\r' ∧ front.head? = some '\n'
      · rcases hPair with ⟨rfl, hNext⟩
        rcases List.head?_eq_some_iff.mp hNext with
          ⟨rest, rfl⟩
        refine ⟨rows, begun, ?_⟩
        intro text line more hHead hText
        rw [← hFront hHead hText, List.cons_append,
          List.cons_append, lines_return_cons,
          lines_newline_cons]
      · -- The character belongs to the first of the lines.
        have hReturn :
            ∀ text : List Char, text.head? ≠ some '\n' →
              c = '\r' →
                (front ++ text).head? ≠ some '\n' := by
          intro text hHead hC
          cases front with
          | nil => exact hHead
          | cons d rest => exact fun hD => hPair ⟨hC, hD⟩
        cases rows with
        | nil =>
            refine ⟨[], c :: begun, ?_⟩
            intro text line more hHead hText
            exact lines_cons hFeed (hReturn text hHead)
              (hFront hHead hText)
        | cons row rows =>
            refine ⟨(c :: row) :: rows, begun, ?_⟩
            intro text line more hHead hText
            exact lines_cons hFeed (hReturn text hHead)
              (hFront hHead hText)

/-
  A text behind goes on with the last line in front of it and
  adds lines of its own.
-/
theorem exists_append_lines
    (back : List Char) :
    ∃ line more, ∀ {text : List Char} {c : Char},
      '\n' ∉ text → text.getLast? = some c →
      isBlank c = false →
        lines (text ++ back) = (text ++ line) :: more := by
  obtain ⟨line, more, hBack⟩ :
      ∃ line more, ∀ {c : Char}, isBlank c = false →
        lines (c :: back) = (c :: line) :: more := by
    have hOrdinary :
        ∀ {c : Char}, isBlank c = false →
          c ≠ '\n' ∧ c ≠ '\r' := by
      intro c hFull
      constructor
      · rintro rfl
        exact absurd hFull (by decide)
      · rintro rfl
        exact absurd hFull (by decide)
    cases hLines : lines back with
    | nil =>
        refine ⟨[], [], ?_⟩
        intro c hFull
        have hAlone : '\n' ∉ [c] := by
          simpa using Ne.symm (hOrdinary hFull).1
        rw [eq_nil_of_lines_eq_nil hLines,
          lines_of_newline_not_mem hAlone (by simp)]
    | cons line more =>
        refine ⟨line, more, ?_⟩
        intro c hFull
        exact lines_cons (hOrdinary hFull).1
          (fun hC => absurd hC (hOrdinary hFull).2) hLines
  refine ⟨line, more, ?_⟩
  intro text c hText hLast hFull
  induction text with
  | nil => cases hLast
  | cons d rest ih =>
      rw [List.mem_cons, not_or] at hText
      cases rest with
      | nil =>
          cases hLast
          exact hBack hFull
      | cons e rest =>
          rw [List.getLast?_cons_cons] at hLast
          refine lines_cons (Ne.symm hText.1) ?_
            (ih hText.2 hLast)
          rintro - hHead
          exact hText.2 (List.mem_of_head? hHead)

/- A text that does not end in a blank is not trimmed. -/
theorem trimEnd_append_of_getLast?
    {text : List Char}
    {c : Char}
    (hLast : text.getLast? = some c)
    (hFull : isBlank c = false)
    (front back : List Char) :
    trimEnd (front ++ text ++ back) =
      front ++ text ++ trimEnd back := by
  rcases List.getLast?_eq_some_iff.mp hLast with ⟨body, rfl⟩
  have hSeen : ¬ AllBlank (c :: back) := by
    intro hBlank
    rw [hBlank c List.mem_cons_self] at hFull
    cases hFull
  have hKept : trimEnd (c :: back) = c :: trimEnd back := by
    rw [trimEnd]
    cases trimEnd back <;> simp [hFull]
  have hSplit :
      front ++ (body ++ [c]) ++ back =
        (front ++ body) ++ c :: back := by
    simp
  rw [hSplit, trimEnd_append hSeen, hKept]
  simp

end ClientGen.Text

namespace ClientGen.Files

open ClientGen.Text

/-
  What stands around such a text is cleaned to the same, be
  the text what it may.
-/
theorem exists_cleaned_append
    (front back : String) :
    ∃ frontKept backKept : String,
      ∀ {text : String} {c : Char},
        '\n' ∉ text.toList →
        text.toList.getLast? = some c →
        isBlank c = false →
          cleaned (front ++ text ++ back) =
            frontKept ++ text ++ backKept := by
  rcases exists_lines_append front.toList with
    ⟨rows, begun, hFront⟩
  rcases exists_append_lines back.toList with
    ⟨line, more, hBack⟩
  refine ⟨String.ofList (unlines (rows.map trimEnd) ++ begun),
    String.ofList (trimEnd line ++ '\n' ::
      unlines (dropEmptyEnd (more.map trimEnd))), ?_⟩
  intro text c hText hLast hFull
  have hSome : text.toList ≠ [] := by
    intro hNone
    rw [hNone] at hLast
    cases hLast
  have hHead :
      (text.toList ++ back.toList).head? ≠ some '\n' := by
    intro hFeed
    rw [List.head?_append_of_ne_nil _ hSome] at hFeed
    exact hText (List.mem_of_head? hFeed)
  have hRow : begun ++ text.toList ++ trimEnd line ≠ [] := by
    simp [hSome]
  have hLines :
      lines (front.toList ++ (text.toList ++ back.toList)) =
        rows ++ (begun ++ (text.toList ++ line)) :: more :=
    hFront hHead (hBack hText hLast hFull)
  have hRows :
      cleanLines (front ++ text ++ back).toList =
        rows.map trimEnd ++
          (begun ++ text.toList ++ trimEnd line) ::
            dropEmptyEnd (more.map trimEnd) := by
    rw [String.toList_append, String.toList_append,
      List.append_assoc, cleanLines, hLines, List.map_append,
      List.map_cons, ← List.append_assoc begun,
      trimEnd_append_of_getLast? hLast hFull,
      dropEmptyEnd_append_cons hRow]
  rw [cleaned, hRows, unlines_append]
  simp [unlines, String.ext_iff]

end ClientGen.Files

namespace ClientGen.Java

open ClientGen.Files ClientGen.Text

------------------------------------------------------------
-- Literals on the Page
------------------------------------------------------------

/- A literal does not end in a blank. -/
theorem getLast?_stringLiteral
    (value : String) :
    (stringLiteral value).toList.getLast? = some '"' := by
  rw [toList_stringLiteral, ← List.cons_append,
    List.getLast?_concat]

/- Its mark stands for a literal in any format. -/
theorem Code.ofFormat_literal
    {first second : String}
    {arguments more : List Argument}
    {a b : Code}
    (hFirst : ofFormat first arguments = .ok a)
    (hSecond : ofFormat second more = .ok b)
    (value : String) :
    ofFormat (first ++ "$S" ++ second)
        (arguments ++ .text value :: more) =
      .ok (ofParts
        (a.parts ++ quotedText value :: b.parts)) := by
  have hMark :
      ofFormat "$S" [.text value] =
        .ok (ofParts [quotedText value]) :=
    rfl
  have hAll :=
    ofFormat_append (ofFormat_append hFirst hMark) hSecond
  rw [List.append_assoc, List.singleton_append] at hAll
  rw [hAll]
  congr 1
  refine ((normal_join _ _).eq_iff (normal_ofParts _)).mpr ?_
  simp [atoms_join_pair]

namespace Page

/- A text within a line is set down as a piece of it. -/
theorem put_of_newline_not_mem
    {s : String}
    (hLine : '\n' ∉ s.toList)
    (p : Page) :
    p.put s = p.putPiece s.toList := by
  rw [put_eq_emit, emit, pieces_eq_singleton hLine, putPieces]

/-
  What is set down around it is the same for any such text
  that is not empty.
-/
theorem exists_text_putParts
    (spellClass : ClassName → String)
    (p : Page)
    (before after : List Code.Part) :
    ∃ front back : String, ∀ {s : String}, s ≠ "" →
      '\n' ∉ s.toList →
        (p.putParts spellClass
            (Code.ofParts (before ++ .text s :: after)).parts
          ).text =
          front ++ s ++ back := by
  let q := p.putParts spellClass before
  refine ⟨
    q.text ++ (if q.atLineStart then margin q.level else ""),
    (putParts spellClass ⟨"", q.level, false⟩ after).text,
    ?_⟩
  intro s hSome hLine
  have hChars : s.toList ≠ [] := by
    simpa using hSome
  have hRest :
      p.putParts spellClass (before ++ .text s :: after) =
        (q.put s).putParts spellClass after := by
    rw [putParts_append]
    rfl
  rw [putParts_ofParts, hRest, put_of_newline_not_mem hLine,
    text_putParts, putPiece, if_neg hChars]
  simp

end Page

/-
  What the mark for texts writes is a body between quotes that
  stays between them, and read as Java reads literals it is
  the text.  So different texts have different literals.  On
  any page and in any code the literal is written as it is,
  and so it is when a file is cleaned that holds it.
-/
theorem literal_roundTrip :
    (∀ value : String,
      (∃ body,
        stringLiteral value =
            String.ofList ('"' :: (body ++ ['"'])) ∧
          StaysInQuotes body) ∧
        literalValue? (stringLiteral value) =
          some (utf16 value.toList)) ∧
    Function.Injective stringLiteral ∧
    (∀ first arguments a second more b value,
      Code.ofFormat first arguments = .ok a →
      Code.ofFormat second more = .ok b →
        Code.ofFormat (first ++ "$S" ++ second)
            (arguments ++ .text value :: more) =
          .ok (Code.ofParts
            (a.parts ++ quotedText value :: b.parts))) ∧
    (∀ (spellClass : ClassName → String) (p : Page)
        (before after : List Code.Part),
      ∃ front back, ∀ value,
        (p.putParts spellClass (Code.ofParts
            (before ++ quotedText value :: after)).parts).text =
          front ++ stringLiteral value ++ back) ∧
    ∀ front back, ∃ frontKept backKept, ∀ value,
      cleaned (front ++ stringLiteral value ++ back) =
        frontKept ++ stringLiteral value ++ backKept := by
  refine ⟨?reads, stringLiteral_injective, ?formats, ?pages,
    ?files⟩
  case reads =>
    intro value
    exact ⟨⟨value.toList.flatMap escapeChar, rfl,
        staysInQuotes_flatMap_escapeChar value.toList⟩,
      literalValue?_stringLiteral value⟩
  case formats =>
    intro first arguments a second more b value hFirst hSecond
    exact Code.ofFormat_literal hFirst hSecond value
  case pages =>
    intro spellClass p before after
    rcases p.exists_text_putParts spellClass before after with
      ⟨front, back, hText⟩
    exact ⟨front, back, fun value =>
      hText (stringLiteral_ne_empty value)
        (newline_not_mem_stringLiteral value)⟩
  case files =>
    intro front back
    rcases exists_cleaned_append front back with
      ⟨frontKept, backKept, hText⟩
    exact ⟨frontKept, backKept, fun value =>
      hText (newline_not_mem_stringLiteral value)
        (getLast?_stringLiteral value) (by decide)⟩

/- A text that looks escaped, with more to escape behind. -/
def quotedPath : String :=
  "C:\\u0041 \"\n"

/- A call that such a text is the argument of. -/
def pathClass : ClassName :=
  .inPackage "java.nio.file" "Path"

def callOnPath : Code :=
  ⟨[.text "return ", .type (.class pathClass), .text ".of("]⟩

def endOfCall : Code :=
  ⟨[.text ");\n"]⟩

/- Its backslash is not read as the start of a number. -/
theorem literal_roundTrip_quotedPath :
    stringLiteral quotedPath = "\"C:\\\\u0041 \\\"\\n\"" ∧
      literalValue? (stringLiteral quotedPath) =
        some (utf16 quotedPath.toList) ∧
      Code.ofFormat "return $T.of(" [pathClass] =
        .ok callOnPath ∧
      Code.ofFormat ");\n" [] = .ok endOfCall ∧
      Code.ofFormat ("return $T.of(" ++ "$S" ++ ");\n")
          ([.type (.class pathClass)] ++ [.text quotedPath]) =
        .ok (Code.ofParts
          (callOnPath.parts ++
            quotedText quotedPath :: endOfCall.parts)) ∧
      ∃ front back,
        cleaned ("path = \t\n  " ++ stringLiteral quotedPath ++
            "; \n\n") =
          front ++ stringLiteral quotedPath ++ back := by
  rcases literal_roundTrip with
    ⟨hReads, -, hFormats, -, hFiles⟩
  have hText :
      stringLiteral quotedPath =
        "\"C:\\\\u0041 \\\"\\n\"" := by
    decide
  have hHead :
      Code.ofFormat "return $T.of(" [pathClass] =
        .ok callOnPath := by
    rfl
  have hEnd : Code.ofFormat ");\n" [] = .ok endOfCall := by
    rfl
  rcases hFiles "path = \t\n  " "; \n\n" with
    ⟨front, back, hKept⟩
  exact ⟨hText, (hReads quotedPath).2, hHead, hEnd,
    hFormats _ _ _ _ _ _ quotedPath hHead hEnd,
    front, back, hKept quotedPath⟩

end ClientGen.Java
