import ClientGen.Text.Blank
import ClientGen.Text.Lines
import Mathlib.Data.List.Basic

/-
  Lines, and the blanks at their ends.

  Main declarations include:
    * `exists_trimEnd_append`
    * `blankAfter?`
    * `Flows`
    * `Closes`
    * `Tidy`
    * `lines_of_tidy`
    * `TrimmedLines`
    * `TrimmedLines.append_cons`
    * `TrimmedLines.trim`

  Whether a blank stands last is carried along a text, and no
  line may be ended behind one.  Texts for which this works
  can be put together by looking at their edges only.
-/

namespace ClientGen.Text

------------------------------------------------------------
-- Lines
------------------------------------------------------------

/- No line holds the end of one. -/
theorem newline_not_mem_of_mem_lines
    {text line : List Char}
    (hLine : line ∈ lines text) :
    '\n' ∉ line := by
  fun_induction lines text generalizing line with
  | case1 => cases hLine
  | case2 rest ih =>
      rcases List.mem_cons.mp hLine with rfl | hRest
      · simp
      · exact ih hRest
  | case3 rest ih =>
      rcases List.mem_cons.mp hLine with rfl | hRest
      · simp
      · exact ih hRest
  | case4 c rest hFeed hReturn hNone ih =>
      cases List.mem_singleton.mp hLine
      simpa [eq_comm] using hFeed
  | case5 c rest hFeed hReturn first more hSome ih =>
      rw [hSome] at ih
      rcases List.mem_cons.mp hLine with rfl | hMore
      · have hFirst := ih List.mem_cons_self
        have hOther : c ≠ '\n' := hFeed
        simp [hFirst, hOther.symm]
      · exact ih (List.mem_cons_of_mem first hMore)

/- Only the empty text has no lines. -/
theorem eq_nil_of_lines_eq_nil
    {text : List Char}
    (hLines : lines text = []) :
    text = [] := by
  fun_cases lines text with
  | case1 => rfl
  | _ => simp_all [lines]

/- A line feed ends a line, also behind a carriage return. -/
theorem lines_newline_cons
    (rest : List Char) :
    lines ('\n' :: rest) = [] :: lines rest := by
  rw [lines]

theorem lines_return_cons
    (rest : List Char) :
    lines ('\r' :: '\n' :: rest) = [] :: lines rest := by
  rw [lines]

/- Any other character belongs to the first line. -/
theorem lines_cons
    {c : Char}
    {rest line : List Char}
    {more : List (List Char)}
    (hFeed : c ≠ '\n')
    (hReturn : c = '\r' → rest.head? ≠ some '\n')
    (hRest : lines rest = line :: more) :
    lines (c :: rest) = (c :: line) :: more := by
  rw [lines.eq_4 c rest hFeed, hRest]
  rintro after rfl rfl
  exact hReturn rfl rfl

/-
  A character ends a line, or does so with the next one, or
  belongs to the first line.
-/
theorem lines_cons_cases
    (c : Char)
    (rest : List Char) :
    (c = '\n' ∧ lines (c :: rest) = [] :: lines rest) ∨
    (∃ after, c = '\r' ∧ rest = '\n' :: after ∧
      lines (c :: rest) = lines rest) ∨
    (rest = [] ∧ lines (c :: rest) = [[c]]) ∨
    (c ≠ '\n' ∧ (c = '\r' → rest.head? ≠ some '\n') ∧
      ∃ line more, lines rest = line :: more ∧
        lines (c :: rest) = (c :: line) :: more) := by
  by_cases hFeed : c = '\n'
  · subst hFeed
    exact .inl ⟨rfl, lines_newline_cons rest⟩
  · by_cases hPair : c = '\r' ∧ rest.head? = some '\n'
    · rcases hPair with ⟨rfl, hHead⟩
      rcases List.head?_eq_some_iff.mp hHead with ⟨after, rfl⟩
      refine .inr (.inl ⟨after, rfl, rfl, ?_⟩)
      rw [lines_return_cons, lines_newline_cons]
    · have hReturn : c = '\r' → rest.head? ≠ some '\n' :=
        fun hSame hHead => hPair ⟨hSame, hHead⟩
      cases hRest : lines rest with
      | nil =>
          have hNone := eq_nil_of_lines_eq_nil hRest
          subst hNone
          rw [lines.eq_4 c [] hFeed (by simp)]
          exact .inr (.inr (.inl ⟨rfl, rfl⟩))
      | cons line more =>
          exact .inr (.inr (.inr ⟨hFeed, hReturn, line, more,
            rfl, lines_cons hFeed hReturn hRest⟩))

/- A text without the end of a line is one line. -/
theorem lines_of_newline_not_mem
    {text : List Char}
    (hText : '\n' ∉ text)
    (hSome : text ≠ []) :
    lines text = [text] := by
  induction text with
  | nil => exact absurd rfl hSome
  | cons c rest ih =>
      rw [List.mem_cons, not_or] at hText
      cases rest with
      | nil =>
          have hFeed : c ≠ '\n' := Ne.symm hText.1
          rw [lines.eq_4 c [] hFeed (by simp)]
          rfl
      | cons d rest =>
          refine lines_cons (Ne.symm hText.1) ?_
            (ih hText.2 (List.cons_ne_nil d rest))
          rintro - hHead
          exact hText.2 (List.mem_of_head? hHead)

------------------------------------------------------------
-- Edges
------------------------------------------------------------

/- What is trimmed from the end of a text are blanks. -/
theorem exists_trimEnd_append
    (text : List Char) :
    ∃ blanks, (∀ c ∈ blanks, isBlank c = true) ∧
      text = trimEnd text ++ blanks := by
  induction text with
  | nil => exact ⟨[], by simp, rfl⟩
  | cons c rest ih =>
      rcases ih with ⟨blanks, hBlanks, hRest⟩
      unfold trimEnd
      cases hKept : trimEnd rest with
      | nil =>
          rw [hKept, List.nil_append] at hRest
          subst hRest
          by_cases hBlank : isBlank c = true
          · exact ⟨c :: rest, by simpa [hBlank] using hBlanks,
              by simp [hBlank]⟩
          · exact ⟨rest, hBlanks, by simp [hBlank]⟩
      | cons d kept =>
          rw [hKept] at hRest
          exact ⟨blanks, hBlanks, by rw [hRest]; rfl⟩

/- A text is trimmed if no blank stands last. -/
theorem trimEnd_eq_self_iff
    {text : List Char} :
    trimEnd text = text ↔
      ∀ c ∈ text.getLast?, isBlank c = false := by
  induction text with
  | nil => simp [trimEnd]
  | cons c rest ih =>
      unfold trimEnd
      cases rest with
      | nil =>
          cases hBlank : isBlank c <;> simp [trimEnd, hBlank]
      | cons d rest =>
          rw [List.getLast?_cons_cons, ← ih]
          cases hKept : trimEnd (d :: rest) with
          | nil => cases isBlank c <;> simp
          | cons e kept => simp

/- So is a character more in front of it, if not alone. -/
theorem trimEnd_cons_eq_self_iff
    {c : Char}
    {text : List Char} :
    trimEnd (c :: text) = c :: text ↔
      trimEnd text = text ∧
        (text = [] → isBlank c = false) := by
  rw [trimEnd_eq_self_iff, trimEnd_eq_self_iff]
  cases text with
  | nil => simp
  | cons d text => simp [List.getLast?_cons_cons]

/- What has been trimmed is trimmed. -/
@[simp]
theorem trimEnd_trimEnd
    (text : List Char) :
    trimEnd (trimEnd text) = trimEnd text := by
  induction text with
  | nil => rfl
  | cons c rest ih =>
      conv_lhs => arg 1; unfold trimEnd
      conv_rhs => unfold trimEnd
      cases hKept : trimEnd rest with
      | nil =>
          cases hBlank : isBlank c <;> simp [trimEnd, hBlank]
      | cons d kept =>
          rw [hKept] at ih
          simp only
          rw [trimEnd, ih]

------------------------------------------------------------
-- Blanks at Ends of Lines
------------------------------------------------------------

/-
  Whether a blank stands last on the line, behind a text and
  in front of it.  There is no answer if the text ends a line
  behind a blank.
-/
def blankAfter? : Bool → List Char → Option Bool
  | blank, [] => some blank
  | blank, c :: rest =>
      if c = '\n' then
        if blank then none else blankAfter? false rest
      else blankAfter? (isBlank c) rest

/- The text may stand behind any other. -/
def Flows (text : List Char) : Prop :=
  (blankAfter? true text).isSome = true

/- The text may, and leaves no blank behind itself. -/
def Closes (text : List Char) : Prop :=
  blankAfter? true text = some false

/- On a new line the text leaves no blank behind itself. -/
def Tidy (text : List Char) : Prop :=
  blankAfter? false text = some false

instance
    (text : List Char) :
    Decidable (Flows text) := by
  unfold Flows
  infer_instance

instance
    (text : List Char) :
    Decidable (Closes text) := by
  unfold Closes
  infer_instance

instance
    (text : List Char) :
    Decidable (Tidy text) := by
  unfold Tidy
  infer_instance

variable {a b : List Char}

theorem blankAfter?_append
    (blank : Bool)
    (a b : List Char) :
    blankAfter? blank (a ++ b) =
      (blankAfter? blank a).bind (blankAfter? · b) := by
  induction a generalizing blank with
  | nil => rfl
  | cons c a ih =>
      rw [List.cons_append, blankAfter?, blankAfter?]
      split
      · split
        · rfl
        · exact ih false
      · exact ih (isBlank c)

/- What may stand behind a blank may stand on a new line. -/
theorem blankAfter?_of_true
    {after : Bool}
    (hText : blankAfter? true a = some after) :
    a = [] ∨ blankAfter? false a = some after := by
  cases a with
  | nil => exact .inl rfl
  | cons c rest =>
      rw [blankAfter?] at hText ⊢
      split at hText
      · cases hText
      · rename_i hFeed
        exact .inr (by rwa [if_neg hFeed])

theorem Flows.exists_blankAfter?
    (hA : Flows a)
    (blank : Bool) :
    ∃ after, blankAfter? blank a = some after := by
  rcases Option.isSome_iff_exists.mp hA with ⟨after, hAfter⟩
  cases blank with
  | true => exact ⟨after, hAfter⟩
  | false =>
      rcases blankAfter?_of_true hAfter with rfl | hFresh
      · exact ⟨false, rfl⟩
      · exact ⟨after, hFresh⟩

theorem Closes.blankAfter?_eq
    (hA : Closes a)
    (blank : Bool) :
    blankAfter? blank a = some false := by
  cases blank with
  | true => exact hA
  | false =>
      rcases blankAfter?_of_true hA with rfl | hFresh
      · cases hA
      · exact hFresh

theorem Closes.flows
    (hA : Closes a) :
    Flows a := by
  rw [Flows, hA]
  rfl

theorem Closes.tidy
    (hA : Closes a) :
    Tidy a :=
  hA.blankAfter?_eq false

------------------------------------------------------------
-- Texts in a Row
------------------------------------------------------------

@[simp]
theorem flows_nil :
    Flows [] :=
  rfl

@[simp]
theorem tidy_nil :
    Tidy [] :=
  rfl

theorem Flows.append
    (hA : Flows a)
    (hB : Flows b) :
    Flows (a ++ b) := by
  rcases hA.exists_blankAfter? true with ⟨between, hBetween⟩
  rcases hB.exists_blankAfter? between with ⟨after, hAfter⟩
  rw [Flows, blankAfter?_append, hBetween, Option.bind_some,
    hAfter]
  rfl

/- Nothing stays behind a text that leaves no blank. -/
theorem Flows.closes
    (hA : Flows a)
    (hB : Closes b) :
    Closes (a ++ b) := by
  rcases hA.exists_blankAfter? true with ⟨between, hBetween⟩
  rw [Closes, blankAfter?_append, hBetween, Option.bind_some,
    hB.blankAfter?_eq]

/- It may be followed by whole lines. -/
theorem Closes.append
    (hA : Closes a)
    (hB : Tidy b) :
    Closes (a ++ b) := by
  rw [Closes, blankAfter?_append, hA]
  exact hB

theorem Tidy.append
    (hA : Tidy a)
    (hB : Tidy b) :
    Tidy (a ++ b) := by
  rw [Tidy, blankAfter?_append, hA]
  exact hB

theorem Tidy.flatMap
    {α : Type}
    {items : List α}
    {text : α → List Char}
    (hItems : ∀ item ∈ items, Tidy (text item)) :
    Tidy (items.flatMap text) := by
  induction items with
  | nil => rfl
  | cons item items ih =>
      rw [List.forall_mem_cons] at hItems
      exact hItems.1.append (ih hItems.2)

/- A text within a line may stand anywhere. -/
theorem flows_of_newline_not_mem
    (hA : '\n' ∉ a) :
    Flows a := by
  suffices hAll :
      ∀ blank, (blankAfter? blank a).isSome = true from
    hAll true
  induction a with
  | nil => exact fun _ => rfl
  | cons c rest ih =>
      rw [List.mem_cons, not_or] at hA
      intro blank
      rw [blankAfter?, if_neg (Ne.symm hA.1)]
      exact ih hA.2 _

/- A text of a line without a blank at its end. -/
theorem closes_of_getLast?
    {c : Char}
    (hA : '\n' ∉ a)
    (hLast : a.getLast? = some c)
    (hFull : isBlank c = false) :
    Closes a := by
  rcases List.getLast?_eq_some_iff.mp hLast with ⟨front, rfl⟩
  rw [List.mem_append, not_or] at hA
  refine (flows_of_newline_not_mem hA.1).closes ?_
  have hFeed : c ≠ '\n' := by
    rintro rfl
    exact absurd hFull (by decide)
  rw [Closes, blankAfter?, if_neg hFeed, hFull]
  rfl

/- In particular a text without any blanks. -/
theorem closes_of_forall_not_blank
    (hSome : a ≠ [])
    (hA : ∀ c ∈ a, isBlank c = false) :
    Closes a := by
  have hFeed : '\n' ∉ a := by
    intro hMem
    exact absurd (hA '\n' hMem) (by decide)
  have hLast := List.getLast?_eq_some_getLast hSome
  exact closes_of_getLast? hFeed hLast
    (hA _ (List.getLast_mem hSome))

/-
  A literal is known by its characters, which are looked at
  much faster than taken from the text.
-/
theorem append_eq_ofList
    {s t : String}
    (hS : s = String.ofList a)
    (hT : t = String.ofList b) :
    s ++ t = String.ofList (a ++ b) := by
  rw [hS, hT, String.ofList_append]

theorem newline_not_mem_literal
    {s : String}
    (hText : s = String.ofList a)
    (hA : '\n' ∉ a) :
    '\n' ∉ s.toList := by
  rwa [hText, String.toList_ofList]

theorem tidy_literal
    {s : String}
    (hText : s = String.ofList a)
    (hA : Tidy a) :
    Tidy s.toList := by
  rwa [hText, String.toList_ofList]

/-
  A tidy text that ends with a line is its lines, and all of
  them are trimmed.
-/
theorem lines_of_tidy
    (hTidy : Tidy a)
    (hEnd : ∀ c ∈ a.getLast?, c = '\n') :
    unlines (lines a) = a ∧
      ∀ line ∈ lines a, trimEnd line = line := by
  suffices hAll :
      ∀ blank, blankAfter? blank a = some false →
        unlines (lines a) = a ∧
          ∀ line ∈ lines a, trimEnd line = line from
    hAll false hTidy
  clear hTidy
  induction a with
  | nil =>
      intro blank hText
      exact ⟨rfl, by simp [lines]⟩
  | cons c rest ih =>
      intro blank hText
      rw [blankAfter?] at hText
      rcases lines_cons_cases c rest with
        ⟨rfl, hLines⟩ | ⟨after, rfl, rfl, -⟩ | ⟨rfl, hOne⟩ |
          ⟨hFeed, -, line, more, hSome, hLines⟩
      · rw [if_pos rfl] at hText
        split at hText
        · cases hText
        · have hRestEnd : ∀ d ∈ rest.getLast?, d = '\n' := by
            cases rest with
            | nil => simp
            | cons d rest => simpa using hEnd
          rcases ih hRestEnd false hText with ⟨hSame, hRest⟩
          rw [hLines, unlines, List.flatMap_cons,
            List.forall_mem_cons]
          exact ⟨congrArg ('\n' :: ·) hSame, rfl, hRest⟩
      · -- The carriage return would be a blank at the end.
        cases hText
      · rw [hEnd c rfl] at hOne
        cases hOne
      · cases rest with
        | nil => cases hSome
        | cons d rest =>
            rw [if_neg hFeed] at hText
            rw [List.getLast?_cons_cons] at hEnd
            rcases ih hEnd _ hText with ⟨hSame, hRest⟩
            rw [hSome] at hSame hRest
            rw [List.forall_mem_cons] at hRest
            rw [hLines, List.forall_mem_cons,
              trimEnd_cons_eq_self_iff]
            refine ⟨congrArg (c :: ·) hSame,
              ⟨hRest.1, ?_⟩, hRest.2⟩
            -- A blank does not stand alone in front of an end.
            rintro rfl
            have hFirst := congrArg List.head? hSame
            cases hFirst
            rw [blankAfter?, if_pos rfl] at hText
            cases hBlank : isBlank c with
            | false => rfl
            | true => simp [hBlank] at hText

------------------------------------------------------------
-- Trimmed Lines
------------------------------------------------------------

/- No line of the text ends in a blank. -/
def TrimmedLines (text : List Char) : Prop :=
  ∀ line ∈ lines text, trimEnd line = line

instance
    (text : List Char) :
    Decidable (TrimmedLines text) := by
  unfold TrimmedLines
  infer_instance

/- A single line is as trimmed as the text. -/
theorem trimmedLines_line
    (hA : '\n' ∉ a)
    (hTrimmed : trimEnd a = a) :
    TrimmedLines a := by
  unfold TrimmedLines
  by_cases hNone : a = []
  · rw [hNone]
    simp [lines]
  · rwa [lines_of_newline_not_mem hA hNone,
      List.forall_mem_singleton]

theorem trimmedLines_of_newline_not_mem
    (hA : '\n' ∉ a) :
    TrimmedLines (trimEnd a) := by
  rcases exists_trimEnd_append a with ⟨blanks, -, hText⟩
  apply trimmedLines_line
  · intro hMem
    rw [hText] at hA
    exact hA (List.mem_append_left _ hMem)
  · exact trimEnd_trimEnd a

/- An empty line may come first. -/
theorem TrimmedLines.newline_cons
    (hA : TrimmedLines a) :
    TrimmedLines ('\n' :: a) := by
  unfold TrimmedLines
  rw [lines, List.forall_mem_cons]
  exact ⟨rfl, hA⟩

/- The end of a line behind a text that has no blank last. -/
theorem lines_append_cons
    {c : Char}
    (hLast : a.getLast? = some c)
    (hFull : isBlank c = false)
    (b : List Char) :
    lines (a ++ '\n' :: b) = lines a ++ lines b := by
  induction a with
  | nil => cases hLast
  | cons first rest ih =>
      cases rest with
      | nil =>
          cases hLast
          have hFeed : first ≠ '\n' := by
            rintro rfl
            exact absurd hFull (by decide)
          have hReturn :
              first = '\r' → ('\n' :: b).head? ≠ some '\n' := by
            rintro rfl
            exact absurd hFull (by decide)
          have hAlone : '\n' ∉ [first] := by
            simpa using Ne.symm hFeed
          rw [lines_of_newline_not_mem hAlone (by simp)]
          exact lines_cons hFeed hReturn (lines_newline_cons b)
      | cons d rest =>
          rw [List.getLast?_cons_cons] at hLast
          have hRest := ih hLast
          rcases lines_cons_cases first (d :: rest) with
            ⟨rfl, hLines⟩ | ⟨after, rfl, hAfter, hLines⟩ |
              ⟨hNone, -⟩ |
                ⟨hFeed, hReturn, line, more, hSome, hLines⟩
          · rw [hLines, List.cons_append, lines_newline_cons,
              hRest]
            rfl
          · cases hAfter
            rw [hLines, ← hRest, List.cons_append,
              List.cons_append, lines_return_cons,
              lines_newline_cons]
          · cases hNone
          · rw [hSome] at hRest
            rw [hLines]
            exact lines_cons hFeed hReturn hRest

theorem TrimmedLines.append_cons
    {c : Char}
    (hLast : a.getLast? = some c)
    (hFull : isBlank c = false)
    (hA : TrimmedLines a)
    (hB : TrimmedLines b) :
    TrimmedLines (a ++ '\n' :: b) := by
  unfold TrimmedLines
  rw [lines_append_cons hLast hFull, List.forall_mem_append]
  exact ⟨hA, hB⟩

/- Characters may be taken away from the front. -/
theorem TrimmedLines.of_cons
    {c : Char}
    (hA : TrimmedLines (c :: a)) :
    TrimmedLines a := by
  unfold TrimmedLines at hA ⊢
  rcases lines_cons_cases c a with
    ⟨-, hLines⟩ | ⟨after, -, -, hLines⟩ | ⟨rfl, -⟩ |
      ⟨-, -, line, more, hSome, hLines⟩
  · rw [hLines, List.forall_mem_cons] at hA
    exact hA.2
  · rwa [hLines] at hA
  · simp [lines]
  · rw [hLines, List.forall_mem_cons] at hA
    rw [hSome, List.forall_mem_cons]
    exact ⟨(trimEnd_cons_eq_self_iff.mp hA.1).1, hA.2⟩

theorem TrimmedLines.trimStart
    (hA : TrimmedLines a) :
    TrimmedLines (Text.trimStart a) := by
  unfold Text.trimStart
  induction a with
  | nil => exact hA
  | cons c rest ih =>
      rw [List.dropWhile_cons]
      split
      · exact ih hA.of_cons
      · exact hA

/- What follows a text that begins with an end of a line. -/
theorem lines_append_of_empty
    {more : List (List Char)}
    (hLines : lines a = [] :: more)
    (b : List Char) :
    ∃ others, lines (a ++ b) = [] :: others := by
  cases a with
  | nil => cases hLines
  | cons c rest =>
      rcases lines_cons_cases c rest with
        ⟨rfl, -⟩ | ⟨after, rfl, rfl, -⟩ | ⟨-, hOne⟩ |
          ⟨-, -, line, others, -, hOne⟩
      · exact ⟨_, lines_newline_cons _⟩
      · exact ⟨_, lines_return_cons _⟩
      · rw [hOne] at hLines
        cases hLines
      · rw [hOne] at hLines
        cases hLines

/- So may the blanks at the end. -/
theorem TrimmedLines.trimEnd
    (hA : TrimmedLines a) :
    TrimmedLines (Text.trimEnd a) := by
  induction a with
  | nil => exact hA
  | cons c rest ih =>
      have hRest := ih hA.of_cons
      rw [Text.trimEnd]
      cases hKept : Text.trimEnd rest with
      | nil =>
          cases hBlank : isBlank c with
          | true => simp [TrimmedLines, lines]
          | false =>
              have hFeed : '\n' ∉ [c] := by
                intro hMem
                cases List.mem_singleton.mp hMem
                exact absurd hBlank (by decide)
              have hAlone :=
                trimmedLines_of_newline_not_mem hFeed
              simpa [Text.trimEnd, hBlank] using hAlone
      | cons d kept =>
          rw [hKept] at hRest
          simp only
          rcases lines_cons_cases c (d :: kept) with
            ⟨rfl, -⟩ | ⟨after, -, -, hLines⟩ | ⟨hNone, -⟩ |
              ⟨hFeed, hReturn, line, more, hSome, hLines⟩
          · exact hRest.newline_cons
          · unfold TrimmedLines
            rwa [hLines]
          · cases hNone
          · unfold TrimmedLines at hRest ⊢
            rw [hSome, List.forall_mem_cons] at hRest
            rw [hLines, List.forall_mem_cons]
            refine ⟨trimEnd_cons_eq_self_iff.mpr
              ⟨hRest.1, ?_⟩, hRest.2⟩
            -- A character alone on its line was so before the
            -- blanks were taken away.
            rintro rfl
            rcases exists_trimEnd_append rest with
              ⟨blanks, -, hText⟩
            rw [hKept] at hText
            rcases lines_append_of_empty hSome blanks with
              ⟨others, hOthers⟩
            rw [← hText] at hOthers
            have hHead :
                c = '\r' → rest.head? ≠ some '\n' := by
              rw [hText]
              exact hReturn
            unfold TrimmedLines at hA
            rw [lines_cons hFeed hHead hOthers,
              List.forall_mem_cons] at hA
            exact (trimEnd_cons_eq_self_iff.mp hA.1).2 rfl

/- A text in trimmed lines is so at its edges too. -/
theorem TrimmedLines.trim
    (hA : TrimmedLines a) :
    TrimmedLines (Text.trim a) :=
  hA.trimStart.trimEnd

end ClientGen.Text
