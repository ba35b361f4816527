import ClientGen.Java.SourceFile
import ClientGen.Proofs.Java.PageLines
import ClientGen.Proofs.Text.LineEnds
import Mathlib.Data.List.Infix
import Mathlib.Data.List.TakeWhile

/-
  Comments on the page, and what ends them.

  Main declarations include:
    * `EndsComment`
    * `endsComment_append_iff`
    * `exists_endsComment_lines_iff`
    * `commentBlock`
    * `Sealed`
    * `sealed_commentBlock_iff`
    * `putParts_javadocLayout`
    * `SourceFile.exists_render_eq`

  A comment is laid out line by line, each behind a star and
  a space.  The star never meets the slash of a line, and so
  only a text that would end the comment by itself does.
-/

namespace ClientGen.Java

open ClientGen.Text

------------------------------------------------------------
-- Ends of Comments
------------------------------------------------------------

/- Whether a text ends a comment that it stands in. -/
def EndsComment
    (text : List Char) :
    Prop :=
  ['*', '/'] <:+: text

instance
    (text : List Char) :
    Decidable (EndsComment text) :=
  inferInstanceAs (Decidable (_ <:+: _))

/- The star and the slash stand in front or further on. -/
theorem endsComment_cons_iff
    {c : Char}
    {text : List Char} :
    EndsComment (c :: text) ↔
      (c = '*' ∧ text.head? = some '/') ∨ EndsComment text := by
  unfold EndsComment
  rw [List.infix_cons_iff]
  cases text with
  | nil => simp
  | cons d text => simp [List.cons_prefix_cons, eq_comm]

@[simp]
theorem not_endsComment_nil :
    ¬EndsComment [] := by
  decide

/-
  Texts that do not meet at a star and a slash end a comment
  if one of them does.
-/
theorem endsComment_append_iff
    {first second : List Char}
    (hMeet :
      first.getLast? ≠ some '*' ∨ second.head? ≠ some '/') :
    EndsComment (first ++ second) ↔
      EndsComment first ∨ EndsComment second := by
  induction first with
  | nil => simp
  | cons c first ih =>
      rw [List.cons_append, endsComment_cons_iff,
        endsComment_cons_iff]
      cases first with
      | nil =>
          have hApart :
              ¬(c = '*' ∧ second.head? = some '/') := by
            rintro ⟨rfl, hHead⟩
            rcases hMeet with hLast | hSlash
            · exact hLast rfl
            · exact hSlash hHead
          simp [hApart]
      | cons d first =>
          have hRest :
              (d :: first).getLast? ≠ some '*' ∨
                second.head? ≠ some '/' := by
            simpa using hMeet
          rw [ih hRest]
          simp [or_assoc]

/- A text without a star ends no comment. -/
theorem not_endsComment_of_star_not_mem
    {text : List Char}
    (hStar : '*' ∉ text) :
    ¬EndsComment text := by
  intro hEnds
  exact hStar (hEnds.subset (by simp))

/- Stars in front do not matter if a blank follows them. -/
theorem endsComment_behind_iff
    {first text : List Char}
    (hFirst : ¬EndsComment first)
    (hLast : first.getLast? ≠ some '*') :
    EndsComment (first ++ text) ↔ EndsComment text := by
  rw [endsComment_append_iff (.inl hLast)]
  simp [hFirst]

------------------------------------------------------------
-- Lines and Edges
------------------------------------------------------------

/- A slash in front is in front of the first line. -/
theorem head_line_eq_slash_iff
    {text line : List Char}
    {more : List (List Char)}
    (hLines : lines text = line :: more) :
    line.head? = some '/' ↔ text.head? = some '/' := by
  fun_cases lines text with
  | case1 => cases hLines
  | case2 rest =>
      cases hLines
      simp
  | case3 rest =>
      cases hLines
      simp
  | case4 c rest hFeed hReturn hNone =>
      rw [lines.eq_4 _ _ hFeed hReturn, hNone] at hLines
      cases hLines
      rfl
  | case5 c rest hFeed hReturn first others hSome =>
      rw [lines.eq_4 _ _ hFeed hReturn, hSome] at hLines
      cases hLines
      rfl

/- A text ends a comment if one of its lines does. -/
theorem exists_endsComment_lines_iff
    {text : List Char} :
    (∃ line ∈ lines text, EndsComment line) ↔
      EndsComment text := by
  fun_induction lines text with
  | case1 => simp
  | case2 rest ih =>
      rw [endsComment_cons_iff]
      simpa using ih
  | case3 rest ih =>
      rw [endsComment_cons_iff, endsComment_cons_iff]
      simpa using ih
  | case4 c rest hFeed hReturn hNone ih =>
      have hRest := eq_nil_of_lines_eq_nil hNone
      subst hRest
      simp
  | case5 c rest hFeed hReturn first more hSome ih =>
      rw [endsComment_cons_iff, ← ih, hSome,
        ← head_line_eq_slash_iff hSome]
      simp [endsComment_cons_iff, or_assoc]

/- Blanks alone end no comment. -/
theorem not_endsComment_of_blank
    {blanks : List Char}
    (hBlanks : ∀ c ∈ blanks, isBlank c = true) :
    ¬EndsComment blanks := by
  apply not_endsComment_of_star_not_mem
  intro hStar
  exact absurd (hBlanks '*' hStar) (by decide)

/- Blanks at the end of a text do not end a comment. -/
theorem endsComment_trimEnd_iff
    {text : List Char} :
    EndsComment (trimEnd text) ↔ EndsComment text := by
  rcases exists_trimEnd_append text with
    ⟨blanks, hBlanks, hText⟩
  have hHead : blanks.head? ≠ some '/' := by
    intro hSlash
    exact absurd (hBlanks '/' (List.mem_of_head? hSlash))
      (by decide)
  have hBoth :
      EndsComment (trimEnd text ++ blanks) ↔
        EndsComment (trimEnd text) ∨ EndsComment blanks :=
    endsComment_append_iff (.inr hHead)
  rw [← hText] at hBoth
  simp [hBoth, not_endsComment_of_blank hBlanks]

/- Nor do those in front of it. -/
theorem endsComment_trim_iff
    {text : List Char} :
    EndsComment (trim text) ↔ EndsComment text := by
  have hBlanks :
      ∀ c ∈ text.takeWhile isBlank, isBlank c = true :=
    fun c hMem => List.mem_takeWhile_imp hMem
  have hLast :
      (text.takeWhile isBlank).getLast? ≠ some '*' := by
    intro hStar
    exact absurd (hBlanks '*' (List.mem_of_getLast? hStar))
      (by decide)
  have hBehind :
      EndsComment
          (text.takeWhile isBlank ++ text.dropWhile isBlank) ↔
        EndsComment (text.dropWhile isBlank) :=
    endsComment_behind_iff (not_endsComment_of_blank hBlanks)
      hLast
  rw [List.takeWhile_append_dropWhile] at hBehind
  rw [trim, endsComment_trimEnd_iff, trimStart, hBehind]

------------------------------------------------------------
-- Comments as Lines
------------------------------------------------------------

/- A line of a comment, without its end. -/
def starred
    (line : List Char) :
    List Char :=
  if line.isEmpty then [' ', '*'] else [' ', '*', ' '] ++ line

/- All lines of a comment: two around those of its text. -/
def commentRows
    (text : String) :
    List (List Char) :=
  ['/', '*', '*'] ::
    ((lines (trimEnd text.toList)).map starred ++
      [[' ', '*', '/']])

/- The lines of a comment on the page, behind the margin. -/
def commentBlock
    (level : Nat)
    (text : String) :
    List (List Char) :=
  (commentRows text).map (marginChars level ++ ·)

/- No line but the last ends the comment. -/
def Sealed
    (block : List (List Char)) :
    Prop :=
  ∀ line ∈ block.dropLast, ¬EndsComment line

/- The star in front of a line does not meet it. -/
theorem endsComment_starred_iff
    {line : List Char} :
    EndsComment (starred line) ↔ EndsComment line := by
  unfold starred
  cases line with
  | nil => decide
  | cons c line =>
      exact endsComment_behind_iff (by decide) (by decide)

/- A margin is made of spaces. -/
theorem eq_space_of_mem_marginChars
    {level : Nat}
    {c : Char}
    (hMem : c ∈ marginChars level) :
    c = ' ' := by
  induction level with
  | zero => simp [marginChars, Page.margin] at hMem
  | succ level ih =>
      unfold marginChars Page.margin at hMem
      rw [String.toList_append, List.mem_append] at hMem
      rcases hMem with hFront | hRest
      · simpa using hFront
      · exact ih hRest

/- It does not meet a line either. -/
theorem endsComment_margin_iff
    {level : Nat}
    {line : List Char} :
    EndsComment (marginChars level ++ line) ↔
      EndsComment line := by
  have hStar : '*' ∉ marginChars level := by
    intro hMem
    exact absurd (eq_space_of_mem_marginChars hMem)
      (by decide)
  apply endsComment_behind_iff
  · exact not_endsComment_of_star_not_mem hStar
  · intro hLast
    exact hStar (List.mem_of_getLast? hLast)

/- A comment is sealed if its text does not end it. -/
theorem sealed_commentBlock_iff
    {level : Nat}
    {text : String} :
    Sealed (commentBlock level text) ↔
      ¬EndsComment text.toList := by
  have hOpening : ¬EndsComment ['/', '*', '*'] := by
    decide
  have hInner :
      (∃ line ∈ (lines (trimEnd text.toList)).map starred,
          EndsComment line) ↔
        EndsComment text.toList := by
    rw [← endsComment_trimEnd_iff,
      ← exists_endsComment_lines_iff]
    simp [endsComment_starred_iff]
  unfold Sealed commentBlock commentRows
  rw [← List.map_dropLast, ← List.cons_append,
    List.dropLast_concat, ← hInner]
  simp [endsComment_margin_iff, hOpening]

------------------------------------------------------------
-- Comments on the Page
------------------------------------------------------------

/- A comment is laid out row by row. -/
theorem javadocLayout_eq
    (text : String) :
    javadocLayout (some text) =
      (commentRows text).map fun row =>
        .text (String.ofList (row ++ ['\n'])) := by
  have hLine :
      ∀ line, commentLine line =
        String.ofList (starred line ++ ['\n']) := by
    intro line
    unfold commentLine starred
    cases line with
    | nil => rfl
    | cons c line =>
        apply String.toList_injective
        simp
  have hInner :
      (commentLines text).map Code.Part.text =
        ((lines (trimEnd text.toList)).map starred).map
          fun row => .text (String.ofList (row ++ ['\n'])) := by
    simp [commentLines, hLine]
  simp only [javadocLayout, commentRows]
  rw [hInner, List.map_cons, List.map_append]
  rfl

/- No row is empty or holds the end of a line. -/
theorem row_of_mem_commentRows
    {text : String}
    {row : List Char}
    (hRow : row ∈ commentRows text) :
    row ≠ [] ∧ '\n' ∉ row := by
  unfold commentRows at hRow
  simp only [List.mem_cons, List.mem_append, List.mem_map,
    List.not_mem_nil, or_false] at hRow
  rcases hRow with rfl | ⟨line, hLine, rfl⟩ | rfl
  · decide
  · have hFeed := newline_not_mem_of_mem_lines hLine
    unfold starred
    cases line with
    | nil => decide
    | cons c line => simpa using hFeed
  · decide

/- On a page at the start of a line a comment is a block. -/
theorem Page.putParts_javadocLayout
    {spellClass : ClassName → String}
    {p : Page}
    (hStart : p.atLineStart = true)
    (text : String) :
    p.putParts spellClass (javadocLayout (some text)) =
      { p with
        text := p.text ++ String.ofList
          (unlines (commentBlock p.level text)) } := by
  rw [javadocLayout_eq, Page.putParts_lines hStart
    fun row hRow => row_of_mem_commentRows hRow]
  rfl

------------------------------------------------------------
-- Comments in Files
------------------------------------------------------------

/- The comment of a method comes before everything else. -/
theorem Method.layout_eq
    (m : Method)
    (enclosing : String)
    (inInterface : Bool) :
    m.layout enclosing inInterface =
      javadocLayout m.javadoc ++
        layout { m with javadoc := none } enclosing
          inInterface := by
  simp [Method.layout, javadocLayout, Method.nameLayout,
    Method.bodyLayout, Method.hasBody]

/- A method is laid out at the start of a line. -/
theorem TypeDecl.exists_layout_eq
    {d : TypeDecl}
    {m : Method}
    (hMem : m ∈ d.methods) :
    ∃ front after,
      d.layout =
        front ++
          m.layout d.name (d.kind == .interfaceType) ++
          after ∧
        ∀ spellClass,
          (Page.blank.putParts spellClass front
            ).atLineStart = true := by
  have hMember :
      m.layout d.name (d.kind == .interfaceType) ∈
        d.members := by
    unfold members
    exact List.mem_append_right _ (List.mem_map_of_mem hMem)
  rcases List.append_of_mem hMember with
    ⟨before, after, hMembers⟩
  exact ⟨d.beforeMember before, behindMember after,
    layout_eq_split hMembers,
    fun _ =>
      (d.endsLine_beforeMember before Page.blank).atLineStart⟩

/-
  In the text of a file the comment of a method is a block of
  lines, and the method stands right behind it.
-/
theorem SourceFile.exists_render_eq
    {f : SourceFile}
    {m : Method}
    {text : String}
    (hMem : m ∈ f.type.methods)
    (hJavadoc : m.javadoc = some text) :
    ∃ before level after,
      f.render =
        before ++
          String.ofList (unlines (commentBlock level text)) ++
          (Page.putParts f.scope.spell ⟨"", level, true⟩
            (Method.layout { m with javadoc := none }
              f.type.name
              (f.type.kind == .interfaceType))).text ++
          after := by
  have hMethods : m ∈ f.declaration.methods := by
    unfold declaration
    cases f.marker <;> exact hMem
  have hName : f.declaration.name = f.type.name := by
    unfold declaration
    cases f.marker <;> rfl
  have hKind : f.declaration.kind = f.type.kind := by
    unfold declaration
    cases f.marker <;> rfl
  rcases TypeDecl.exists_layout_eq hMethods with
    ⟨front, after, hLayout, hStart⟩
  rw [hName, hKind, Method.layout_eq, hJavadoc,
    ← List.append_assoc] at hLayout
  have hPage := hStart f.scope.spell
  rcases hP : Page.blank.putParts f.scope.spell front with
    ⟨text₀, level, atLineStart⟩
  rw [hP] at hPage
  cases hPage
  have hRest :
      ∀ p : Page, ∃ rest,
        (p.putParts f.scope.spell after).text =
          p.text ++ rest :=
    fun p => ⟨_, Page.text_putParts p after⟩
  rcases hRest _ with ⟨rest, hRest⟩
  refine ⟨f.commentText ++ f.packageText ++ f.importsText ++
    text₀, level, rest, ?_⟩
  unfold render renderParts
  rw [hLayout, Page.putParts_append, hRest,
    Page.putParts_append, Page.putParts_append, hP,
    Page.putParts_javadocLayout rfl, Page.text_putParts]
  simp only [String.append_assoc]

end ClientGen.Java
