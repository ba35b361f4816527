import ClientGen.Files.Output
import ClientGen.Proofs.Text.LineEnds

/-
  Texts that are written as they are.

  Main declarations include:
    * `unlines_cleanLines`
    * `IsClean`
    * `isClean_of_tidy`
    * `placeAll`
    * `writeAll_eq_placeAll`

  Cleaning takes blanks from the ends of lines and empty
  lines from the end of the text.  Where there are none it
  changes nothing.
-/

namespace ClientGen.Files

open ClientGen.Client ClientGen.Text

------------------------------------------------------------
-- Clean Texts
------------------------------------------------------------

/- In a tidy text no blank stands in front of a line's end. -/
theorem eq_newline_or_of_tidy
    {before after : List Char}
    {c : Char}
    (hTidy : Tidy (before ++ c :: '\n' :: after)) :
    c = '\n' ∨ isBlank c = false := by
  rw [Tidy, blankAfter?_append] at hTidy
  rcases Option.bind_eq_some_iff.mp hTidy with
    ⟨blank, -, hRest⟩
  by_cases hFeed : c = '\n'
  · exact .inl hFeed
  · rw [blankAfter?, if_neg hFeed, blankAfter?,
      if_pos rfl] at hRest
    cases hBlank : isBlank c with
    | false => exact .inr rfl
    | true => simp [hBlank] at hRest

/- The lines of a text that ends with a line are its own. -/
theorem unlines_append
    (rows more : List (List Char)) :
    unlines (rows ++ more) = unlines rows ++ unlines more :=
  List.flatMap_append

/- Text behind the last empty line would end with a line. -/
theorem getLast?_unlines
    (rows : List (List Char)) :
    ∀ c ∈ (unlines rows).getLast?, c = '\n' := by
  rcases List.eq_nil_or_concat rows with
    rfl | ⟨front, last, rfl⟩
  · simp [unlines]
  · rw [List.concat_eq_append, unlines_append]
    simp [unlines, eq_comm]

/- No empty line is last in a text that ends like this. -/
theorem dropEmptyEnd_lines
    {body : List Char}
    {c : Char}
    {rows : List (List Char)}
    (hText : unlines rows = body ++ [c, '\n'])
    (hFull : isBlank c = false) :
    dropEmptyEnd rows = rows := by
  rcases List.eq_nil_or_concat rows with
    rfl | ⟨front, last, rfl⟩
  · rfl
  · rw [List.concat_eq_append] at hText ⊢
    have hLast : last ≠ [] := by
      rintro rfl
      rw [unlines_append] at hText
      have hFront : unlines front = body ++ [c] := by
        have hSplit :
            unlines front ++ ['\n'] =
              (body ++ [c]) ++ ['\n'] := by
          simpa [unlines] using hText
        exact List.append_cancel_right hSplit
      have hFeed : c = '\n' :=
        getLast?_unlines front c (by simp [hFront])
      rw [hFeed] at hFull
      exact absurd hFull (by decide)
    have hSome : last.isEmpty = false := by
      simpa using hLast
    simp [dropEmptyEnd, hSome]

/- Tidy text that ends in exactly one line end is kept. -/
theorem unlines_cleanLines
    {text body : List Char}
    {c : Char}
    (hTidy : Tidy text)
    (hEnd : text = body ++ [c, '\n'])
    (hFull : isBlank c = false) :
    unlines (cleanLines text) = text := by
  rcases lines_of_tidy hTidy (by simp [hEnd, eq_comm]) with
    ⟨hSame, hTrimmed⟩
  have hMap : (lines text).map trimEnd = lines text :=
    (List.map_congr_left hTrimmed).trans (List.map_id' _)
  rw [cleanLines, hMap,
    dropEmptyEnd_lines (hSame.trans hEnd) hFull, hSame]

/-
  A text that is not empty, on no line of which a blank comes
  last, and which ends in exactly one line feed.  It is
  written as it is.
-/
structure IsClean (source : String) : Prop where
  nonempty : source ≠ ""
  trimmed : ∀ before c after,
    source.toList = before ++ c :: '\n' :: after →
      c = '\n' ∨ isBlank c = false
  ended : ∃ body c, source.toList = body ++ [c, '\n'] ∧
    isBlank c = false
  kept : cleaned source = source

theorem isClean_of_tidy
    {source : String}
    {body : List Char}
    {c : Char}
    (hTidy : Tidy source.toList)
    (hEnd : source.toList = body ++ [c, '\n'])
    (hFull : isBlank c = false) :
    IsClean source where
  nonempty := by
    rintro rfl
    simp at hEnd
  trimmed := by
    intro before d after hText
    rw [hText] at hTidy
    exact eq_newline_or_of_tidy hTidy
  ended := ⟨body, c, hEnd, hFull⟩
  kept := by
    rw [cleaned, unlines_cleanLines hTidy hEnd hFull,
      String.ofList_toList]

------------------------------------------------------------
-- Writing
------------------------------------------------------------

variable {m : Type → Type} [Monad m] [FileSystem m]

/- Write one file below a directory, its text as it is. -/
def placeFile
    (output : String)
    (file : GeneratedFile) :
    FileAction m String := do
  let path := Path.join output file.path
  match Path.parent? path with
  | some parent => createDirectories parent
  | none => pure ()
  writeText path file.source
  return path

/- Write files like this; these are their paths. -/
def placeAll
    (output : String)
    (files : List GeneratedFile) :
    FileAction m (List String) := do
  createDirectories output
  files.mapM (placeFile output)

omit [FileSystem m] in
/- A list is gone through with either of two equal actions. -/
theorem mapM_congr
    {α β : Type}
    {f g : α → FileAction m β}
    {items : List α}
    (hItems : ∀ item ∈ items, f item = g item) :
    items.mapM f = items.mapM g := by
  have hLoop :
      ∀ done,
        List.mapM.loop f items done =
          List.mapM.loop g items done := by
    induction items with
    | nil => exact fun _ => rfl
    | cons item items ih =>
        rw [List.forall_mem_cons] at hItems
        intro done
        rw [List.mapM.loop, List.mapM.loop, hItems.1]
        congr 1
        funext made
        exact ih hItems.2 (made :: done)
  exact hLoop []

/- Clean files are written as they are. -/
theorem writeAll_eq_placeAll
    {files : List GeneratedFile}
    (hClean : ∀ file ∈ files, IsClean file.source)
    (output : String) :
    (writeAll output files : FileAction m (List String)) =
      placeAll output files := by
  have hFile :
      ∀ file ∈ files,
        (writeFile output file : FileAction m String) =
          placeFile output file := by
    intro file hMem
    have hKept := (hClean file hMem).kept
    calc (writeFile output file : FileAction m String)
      _ = placeFile output
            { file with source := cleaned file.source } := rfl
      _ = placeFile output file := by rw [hKept]
  unfold writeAll placeAll
  rw [mapM_congr hFile]

end ClientGen.Files
