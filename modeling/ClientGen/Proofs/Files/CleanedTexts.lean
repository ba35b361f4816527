import ClientGen.Proofs.Files.Cleaning
import ClientGen.Proofs.Text.Trimming
import Mathlib.Data.List.DropRight
import Mathlib.Data.List.Forall2

/-
  Cleaning as a normal form of texts.

  Main declarations include:
    * `lines_unlines`
    * `exists_lines_eq`
    * `cleanLines_unlines`
    * `isClean_cleaned`
    * `AgreeBeyondBlanks`
    * `cleaned_eq_iff`
    * `cleaned_normalForm`

  A cleaned text is known by its lines, which are those of
  the source up to the last that is not blank, each without
  the blanks at its end.
-/

namespace ClientGen.Text

------------------------------------------------------------
-- Trimmed Lines
------------------------------------------------------------

/- Trimmed lines are the lines of the text they make up. -/
theorem lines_unlines
    {rows : List (List Char)}
    (hLine : ∀ row ∈ rows, '\n' ∉ row)
    (hTrimmed : ∀ row ∈ rows, trimEnd row = row) :
    lines (unlines rows) = rows := by
  induction rows with
  | nil => simp [unlines, lines]
  | cons row rows ih =>
      rw [List.forall_mem_cons] at hLine hTrimmed
      have hRest := ih hLine.2 hTrimmed.2
      have hText :
          unlines (row :: rows) =
            row ++ '\n' :: unlines rows := by
        simp [unlines]
      rw [hText]
      cases hLast : row.getLast? with
      | none =>
          rw [List.getLast?_eq_none_iff.mp hLast,
            List.nil_append, lines_newline_cons, hRest]
      | some c =>
          have hFull : isBlank c = false :=
            trimEnd_eq_self_iff.mp hTrimmed.1 c hLast
          have hSome : row ≠ [] := by
            rintro rfl
            cases hLast
          rw [lines_append_cons hLast hFull, hRest,
            lines_of_newline_not_mem hLine.1 hSome]
          rfl

/- And that text is tidy. -/
theorem tidy_unlines
    {rows : List (List Char)}
    (hLine : ∀ row ∈ rows, '\n' ∉ row)
    (hTrimmed : ∀ row ∈ rows, trimEnd row = row) :
    Tidy (unlines rows) := by
  apply Tidy.flatMap
  intro row hRow
  have hEnd : Tidy ['\n'] := by
    decide
  cases hLast : row.getLast? with
  | none =>
      rw [List.getLast?_eq_none_iff.mp hLast]
      exact hEnd
  | some c =>
      have hFull : isBlank c = false :=
        trimEnd_eq_self_iff.mp (hTrimmed row hRow) c hLast
      exact ((closes_of_getLast? (hLine row hRow) hLast
        hFull).append hEnd).tidy

------------------------------------------------------------
-- Lines that Agree
------------------------------------------------------------

/- Two lines are the same but for blanks at their ends. -/
def LinesAgree (a b : List Char) : Prop :=
  ∃ common blanksA blanksB,
    a = common ++ blanksA ∧ b = common ++ blanksB ∧
      AllBlank blanksA ∧ AllBlank blanksB

/- Then the same is kept of both. -/
theorem linesAgree_iff
    {a b : List Char} :
    LinesAgree a b ↔ trimEnd a = trimEnd b := by
  constructor
  · rintro ⟨common, blanksA, blanksB, rfl, rfl, hA, hB⟩
    rw [trimEnd_append_blanks hA, trimEnd_append_blanks hB]
  · intro hSame
    rcases exists_trimEnd_append a with
      ⟨blanksA, hA, hSplitA⟩
    rcases exists_trimEnd_append b with
      ⟨blanksB, hB, hSplitB⟩
    rw [← hSame] at hSplitB
    exact ⟨trimEnd a, blanksA, blanksB, hSplitA, hSplitB,
      hA, hB⟩

/- So it is for lines one by one. -/
theorem forall₂_linesAgree_iff
    {as bs : List (List Char)} :
    List.Forall₂ LinesAgree as bs ↔
      as.map trimEnd = bs.map trimEnd := by
  have hAgree :
      LinesAgree = fun a b => trimEnd a = trimEnd b := by
    funext a b
    exact propext linesAgree_iff
  calc List.Forall₂ LinesAgree as bs
    _ ↔ List.Forall₂ (fun a b => trimEnd a = trimEnd b)
          as bs := by rw [hAgree]
    _ ↔ List.Forall₂ (· = ·) (as.map trimEnd)
          (bs.map trimEnd) := by
        rw [List.forall₂_map_left_iff,
          List.forall₂_map_right_iff]
    _ ↔ as.map trimEnd = bs.map trimEnd := by
        rw [List.forall₂_eq_eq_eq]

end ClientGen.Text

namespace ClientGen.Files

open ClientGen.Text

------------------------------------------------------------
-- Rows
------------------------------------------------------------

/- Empty rows are dropped from the end until there is none. -/
theorem dropEmptyEnd_eq_rdropWhile
    (rows : List (List Char)) :
    dropEmptyEnd rows = rows.rdropWhile List.isEmpty :=
  rfl

/- Empty rows at the end are dropped with the others. -/
theorem dropEmptyEnd_append_empty
    {empty : List (List Char)}
    (hEmpty : ∀ row ∈ empty, row = [])
    (rows : List (List Char)) :
    dropEmptyEnd (rows ++ empty) = dropEmptyEnd rows := by
  induction empty using List.reverseRecOn with
  | nil => rw [List.append_nil]
  | append_singleton empty row ih =>
      rw [List.forall_mem_append, List.forall_mem_singleton]
        at hEmpty
      rw [dropEmptyEnd_eq_rdropWhile, ← List.append_assoc,
        List.rdropWhile_concat_pos _ _ _ (by simp [hEmpty.2])]
      exact ih hEmpty.1

/- Rows in front of one that is not empty stay. -/
theorem dropEmptyEnd_append_cons
    {row : List Char}
    (hRow : row ≠ [])
    (front back : List (List Char)) :
    dropEmptyEnd (front ++ row :: back) =
      front ++ row :: dropEmptyEnd back := by
  induction back using List.reverseRecOn with
  | nil =>
      have hFull : ¬ row.isEmpty = true := by
        simpa using hRow
      exact List.rdropWhile_concat_neg _ _ _ hFull
  | append_singleton back last ih =>
      have hAssoc :
          front ++ row :: (back ++ [last]) =
            (front ++ row :: back) ++ [last] := by
        simp
      rw [hAssoc, dropEmptyEnd_eq_rdropWhile,
        dropEmptyEnd_eq_rdropWhile]
      by_cases hLast : last = []
      · have hEmpty : last.isEmpty = true := by
          simp [hLast]
        rw [List.rdropWhile_concat_pos _ _ _ hEmpty,
          List.rdropWhile_concat_pos _ _ _ hEmpty]
        exact ih
      · have hFull : ¬ last.isEmpty = true := by
          simpa using hLast
        rw [List.rdropWhile_concat_neg _ _ _ hFull,
          List.rdropWhile_concat_neg _ _ _ hFull, hAssoc]

------------------------------------------------------------
-- Cleaned Lines
------------------------------------------------------------

/-
  A text is lines of which something is kept, up to one that
  is not blank, and blank lines.
-/
theorem exists_lines_eq
    (text : List Char) :
    ∃ front back,
      lines text = front ++ back ∧
        front.map trimEnd = cleanLines text ∧
        ∀ line ∈ back, AllBlank line := by
  have hRows :
      (lines text).map trimEnd =
        cleanLines text ++
          ((lines text).map trimEnd).rtakeWhile List.isEmpty :=
    (List.rdropWhile_append_rtakeWhile).symm
  rcases List.map_eq_append_iff.mp hRows with
    ⟨front, back, hLines, hFront, hBack⟩
  refine ⟨front, back, hLines, hFront, ?_⟩
  intro line hLine
  have hMem := List.mem_map_of_mem (f := trimEnd) hLine
  rw [hBack] at hMem
  rw [← trimEnd_eq_nil_iff, ← List.isEmpty_iff]
  exact List.mem_rtakeWhile_imp hMem

/- What is left of a text whose end is blank. -/
theorem cleanLines_of_lines_eq
    {text : List Char}
    {front back : List (List Char)}
    (hLines : lines text = front ++ back)
    (hBack : ∀ line ∈ back, AllBlank line) :
    cleanLines text = dropEmptyEnd (front.map trimEnd) := by
  have hEmpty : ∀ row ∈ back.map trimEnd, row = [] := by
    intro row hRow
    rcases List.mem_map.mp hRow with ⟨line, hLine, rfl⟩
    exact trimEnd_eq_nil_iff.mpr (hBack line hLine)
  rw [cleanLines, hLines, List.map_append,
    dropEmptyEnd_append_empty hEmpty]

/- The rows of a cleaned text lie on one line each, -/
theorem newline_not_mem_of_mem_cleanLines
    {text row : List Char}
    (hRow : row ∈ cleanLines text) :
    '\n' ∉ row := by
  rcases exists_lines_eq text with
    ⟨front, back, hLines, hFront, -⟩
  rw [← hFront] at hRow
  rcases List.mem_map.mp hRow with ⟨line, hLine, rfl⟩
  have hFeed : '\n' ∉ line :=
    newline_not_mem_of_mem_lines (by rw [hLines]; simp [hLine])
  rcases exists_trimEnd_append line with ⟨blanks, -, hSplit⟩
  intro hMem
  rw [hSplit] at hFeed
  exact hFeed (List.mem_append_left _ hMem)

/- and have no blanks at their ends. -/
theorem trimEnd_of_mem_cleanLines
    {text row : List Char}
    (hRow : row ∈ cleanLines text) :
    trimEnd row = row := by
  rcases exists_lines_eq text with ⟨front, -, -, hFront, -⟩
  rw [← hFront] at hRow
  rcases List.mem_map.mp hRow with ⟨line, -, rfl⟩
  exact trimEnd_trimEnd line

/- The last of them is not empty. -/
theorem ne_nil_of_getLast?_cleanLines
    {text last : List Char}
    (hLast : (cleanLines text).getLast? = some last) :
    last ≠ [] := by
  have hSome : cleanLines text ≠ [] := by
    intro hNone
    rw [hNone] at hLast
    cases hLast
  have hFull :
      ¬ ((cleanLines text).getLast hSome).isEmpty = true :=
    List.rdropWhile_last_not _ _ hSome
  rw [List.getLast?_eq_some_getLast hSome] at hLast
  rw [← Option.some.inj hLast]
  simpa using hFull

/- They are the lines of the cleaned text. -/
theorem lines_unlines_cleanLines
    (text : List Char) :
    lines (unlines (cleanLines text)) = cleanLines text :=
  lines_unlines
    (fun _ hRow => newline_not_mem_of_mem_cleanLines hRow)
    (fun _ hRow => trimEnd_of_mem_cleanLines hRow)

/- Cleaning leaves them alone. -/
theorem cleanLines_unlines
    (text : List Char) :
    cleanLines (unlines (cleanLines text)) =
      cleanLines text := by
  have hMap :
      (cleanLines text).map trimEnd = cleanLines text :=
    (List.map_congr_left fun _ hRow =>
      trimEnd_of_mem_cleanLines hRow).trans (List.map_id' _)
  conv_lhs => rw [cleanLines, lines_unlines_cleanLines, hMap]
  exact List.rdropWhile_idempotent _ _

/- There are none if all the lines are blank. -/
theorem cleanLines_eq_nil_iff
    {text : List Char} :
    cleanLines text = [] ↔
      ∀ line ∈ lines text, AllBlank line := by
  rw [cleanLines, dropEmptyEnd_eq_rdropWhile,
    List.rdropWhile_eq_nil_iff, List.forall_mem_map]
  simp only [List.isEmpty_iff, trimEnd_eq_nil_iff]

------------------------------------------------------------
-- Cleaned Texts
------------------------------------------------------------

@[simp]
theorem toList_cleaned
    (source : String) :
    (cleaned source).toList =
      unlines (cleanLines source.toList) :=
  String.toList_ofList

/- The lines of a cleaned text. -/
theorem lines_cleaned
    (source : String) :
    lines (cleaned source).toList =
      cleanLines source.toList := by
  rw [toList_cleaned, lines_unlines_cleanLines]

/- A cleaned text is clean already. -/
@[simp]
theorem cleaned_cleaned
    (source : String) :
    cleaned (cleaned source) = cleaned source := by
  rw [cleaned, toList_cleaned, cleanLines_unlines, ← cleaned]

/- Cleaned texts are known by their lines. -/
theorem cleaned_eq_iff_cleanLines
    {source other : String} :
    cleaned source = cleaned other ↔
      cleanLines source.toList = cleanLines other.toList := by
  constructor
  · intro hSame
    rw [← lines_cleaned, hSame, lines_cleaned]
  · intro hSame
    rw [cleaned, hSame, ← cleaned]

/- Nothing is left of blank lines. -/
theorem cleaned_eq_empty_iff
    {source : String} :
    cleaned source = "" ↔
      ∀ line ∈ lines source.toList, AllBlank line := by
  have hEmpty : cleaned "" = "" :=
    rfl
  rw [← hEmpty, cleaned_eq_iff_cleanLines,
    ← cleanLines_eq_nil_iff]
  rfl

/- What is left of other texts is clean. -/
theorem isClean_cleaned
    {source : String}
    (hSome : cleaned source ≠ "") :
    IsClean (cleaned source) := by
  have hTidy : Tidy (cleaned source).toList := by
    rw [toList_cleaned]
    exact tidy_unlines
      (fun _ hRow => newline_not_mem_of_mem_cleanLines hRow)
      (fun _ hRow => trimEnd_of_mem_cleanLines hRow)
  cases hRows : (cleanLines source.toList).getLast? with
  | none =>
      rw [List.getLast?_eq_none_iff, cleanLines_eq_nil_iff,
        ← cleaned_eq_empty_iff] at hRows
      exact absurd hRows hSome
  | some last =>
      have hFull : last ≠ [] :=
        ne_nil_of_getLast?_cleanLines hRows
      rcases List.getLast?_eq_some_iff.mp hRows with
        ⟨front, hFront⟩
      have hMem : last ∈ cleanLines source.toList := by
        simp [hFront]
      have hLast := List.getLast?_eq_some_getLast hFull
      have hBlank :=
        trimEnd_eq_self_iff.mp (trimEnd_of_mem_cleanLines hMem)
          _ hLast
      rcases List.getLast?_eq_some_iff.mp hLast with
        ⟨body, hBody⟩
      have hEnd :
          (cleaned source).toList =
            (unlines front ++ body) ++
              [last.getLast hFull, '\n'] := by
        rw [toList_cleaned, hFront, unlines_append]
        conv_lhs => rw [hBody]
        simp [unlines]
      exact isClean_of_tidy hTidy hEnd hBlank

/-
  Two texts agree line by line, but for blanks at the ends of
  lines and blank lines at the end.
-/
def AgreeBeyondBlanks (source other : String) : Prop :=
  ∃ front back frontOther backOther,
    lines source.toList = front ++ back ∧
      lines other.toList = frontOther ++ backOther ∧
      List.Forall₂ LinesAgree front frontOther ∧
      (∀ line ∈ back, AllBlank line) ∧
      ∀ line ∈ backOther, AllBlank line

/- These are the texts that are written alike. -/
theorem cleaned_eq_iff
    {source other : String} :
    cleaned source = cleaned other ↔
      AgreeBeyondBlanks source other := by
  rw [cleaned_eq_iff_cleanLines]
  constructor
  · intro hSame
    rcases exists_lines_eq source.toList with
      ⟨front, back, hLines, hFront, hBack⟩
    rcases exists_lines_eq other.toList with
      ⟨frontOther, backOther, hOther, hFrontOther,
        hBackOther⟩
    have hAgree :
        List.Forall₂ LinesAgree front frontOther := by
      rw [forall₂_linesAgree_iff, hFront, hSame, hFrontOther]
    exact ⟨front, back, frontOther, backOther, hLines, hOther,
      hAgree, hBack, hBackOther⟩
  · rintro ⟨front, back, frontOther, backOther, hLines,
      hOther, hAgree, hBack, hBackOther⟩
    rw [cleanLines_of_lines_eq hLines hBack,
      cleanLines_of_lines_eq hOther hBackOther,
      forall₂_linesAgree_iff.mp hAgree]

/-
  Cleaning a text once more changes nothing.  Nothing is left
  of a text exactly if all of its lines are blank, and what is
  left of any other ends in one line feed behind a character
  that is no blank, with no blank at the end of a line.  Its
  lines are those of the source without the blanks at their
  ends, in order, up to the last line that is not blank.  Two
  texts are cleaned to the same one exactly if they agree but
  for blanks at the ends of lines and blank lines at the end.
-/
theorem cleaned_normalForm :
    (∀ source : String,
      cleaned (cleaned source) = cleaned source ∧
      (cleaned source = "" ↔
        ∀ line ∈ lines source.toList, AllBlank line) ∧
      (cleaned source ≠ "" → IsClean (cleaned source)) ∧
      ∃ front back,
        lines source.toList = front ++ back ∧
          List.Forall₂ Trims front
            (lines (cleaned source).toList) ∧
          (∀ line ∈ front.getLast?, ¬ AllBlank line) ∧
          ∀ line ∈ back, AllBlank line) ∧
    ∀ source other : String,
      cleaned source = cleaned other ↔
        AgreeBeyondBlanks source other := by
  refine ⟨?each, fun source other => cleaned_eq_iff⟩
  case each =>
    intro source
    refine ⟨cleaned_cleaned source, cleaned_eq_empty_iff,
      isClean_cleaned, ?_⟩
    rcases exists_lines_eq source.toList with
      ⟨front, back, hLines, hFront, hBack⟩
    refine ⟨front, back, hLines, ?rows, ?last, hBack⟩
    case rows =>
      rw [lines_cleaned, ← hFront,
        List.forall₂_map_right_iff]
      exact List.forall₂_same.mpr fun line _ =>
        trims_iff.mpr rfl
    case last =>
      intro line hLine
      have hKept :
          (cleanLines source.toList).getLast? =
            some (trimEnd line) := by
        rw [← hFront, List.getLast?_map, hLine]
        rfl
      rw [← trimEnd_eq_nil_iff]
      exact ne_nil_of_getLast?_cleanLines hKept

/- A class as it might be written by hand. -/
def looseClass : String :=
  "class A \x7b \t\r\n\n  int a;\u00a0\n\x7d\n \n\n"

/- It keeps its four lines, with nothing at their ends. -/
theorem cleaned_normalForm_looseClass :
    cleaned looseClass =
        "class A \x7b\n\n  int a;\n\x7d\n" ∧
      cleaned (cleaned looseClass) = cleaned looseClass ∧
      IsClean (cleaned looseClass) ∧
      AgreeBeyondBlanks looseClass (cleaned looseClass) := by
  rcases cleaned_normalForm with ⟨hEach, hPairs⟩
  have hText :
      cleaned looseClass =
        "class A \x7b\n\n  int a;\n\x7d\n" := by
    decide +kernel
  have hSome : cleaned looseClass ≠ "" := by
    rw [hText]
    decide
  have hSame := (hEach looseClass).1
  exact ⟨hText, hSame, (hEach looseClass).2.2.1 hSome,
    (hPairs _ _).mp hSame.symm⟩

end ClientGen.Files
