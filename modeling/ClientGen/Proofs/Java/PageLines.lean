import ClientGen.Java.Page
import ClientGen.Proofs.Java.LayoutParts

/-
  Lines on the page, and what stands at their beginning.

  Main declarations include:
    * `Page.text_putParts`
    * `Page.put_unended`
    * `Page.put_line`
    * `Page.putParts_lines`
    * `Begins`
    * `Begins.text_putParts`
    * `Page.EndsLine`
    * `EndsLine.putParts`
    * `TypeDecl.endsLine_beforeMember`

  What is set down does not look at what stands there, but
  for the level and the start of a line.  Members of types
  are whole lines, so each of them begins one.
-/

namespace ClientGen.Java

open ClientGen.Text

------------------------------------------------------------
-- Lines on the Page
------------------------------------------------------------

/- The margin of a level, as characters. -/
def marginChars
    (level : Nat) :
    List Char :=
  (Page.margin level).toList

/- A margin is four spaces a level. -/
theorem marginChars_eq
    (level : Nat) :
    marginChars level = List.replicate (4 * level) ' ' := by
  induction level with
  | zero => rfl
  | succ level ih =>
      unfold marginChars at ih ⊢
      rw [Page.margin, String.toList_append, ih, Nat.mul_succ,
        Nat.add_comm, ← List.replicate_append_replicate]
      rfl

namespace Page

/- The page with a text in front of its own. -/
def behind
    (before : String)
    (p : Page) :
    Page :=
  { p with text := before ++ p.text }

variable {spellClass : ClassName → String}

/- What is set down does not look at what stands there. -/
theorem putChar_behind
    (before : String)
    (p : Page)
    (c : Char) :
    (p.behind before).putChar c =
      (p.putChar c).behind before := by
  unfold putChar behind
  by_cases hFeed : c = '\n'
  · simp [hFeed, String.ext_iff]
  · cases hStart : p.atLineStart <;>
      simp [hFeed, String.ext_iff]

theorem put_behind
    (before : String)
    (p : Page)
    (s : String) :
    (p.behind before).put s = (p.put s).behind before := by
  unfold put
  generalize s.toList = chars
  induction chars generalizing p with
  | nil => rfl
  | cons c chars ih =>
      rw [List.foldl_cons, List.foldl_cons, putChar_behind, ih]

theorem putParts_behind
    (before : String)
    (p : Page)
    (parts : List Code.Part) :
    (p.behind before).putParts spellClass parts =
      (p.putParts spellClass parts).behind before := by
  unfold putParts
  induction parts generalizing p with
  | nil => rfl
  | cons part parts ih =>
      have hPart :
          (p.behind before).putPart spellClass part =
            (p.putPart spellClass part).behind before := by
        cases part with
        | text s => exact put_behind before p s
        | type t => exact put_behind before p _
        | indent => rfl
        | unindent => rfl
      rw [List.foldl_cons, List.foldl_cons, hPart, ih]

/- So a text grows by what an empty page would hold. -/
theorem text_putParts
    (p : Page)
    (parts : List Code.Part) :
    (p.putParts spellClass parts).text =
      p.text ++
        (putParts spellClass ⟨"", p.level, p.atLineStart⟩
          parts).text := by
  have hPage :
      behind p.text ⟨"", p.level, p.atLineStart⟩ = p := by
    simp [behind]
  have hBehind :
      p.putParts spellClass parts =
        (putParts spellClass ⟨"", p.level, p.atLineStart⟩
          parts).behind p.text := by
    rw [← putParts_behind, hPage]
  rw [hBehind]
  rfl

@[simp]
theorem putParts_append
    (p : Page)
    (a b : List Code.Part) :
    p.putParts spellClass (a ++ b) =
      (p.putParts spellClass a).putParts spellClass b :=
  List.foldl_append

/- A text that is put together is set down piece by piece. -/
theorem put_append
    (p : Page)
    (s t : String) :
    p.put (s ++ t) = (p.put s).put t := by
  simp [put]

/- A text that ends a line leaves the page at the next. -/
theorem atLineStart_put
    (p : Page)
    (s : String)
    (hEnd : s.toList.getLast? = some '\n') :
    (p.put s).atLineStart = true := by
  rcases List.getLast?_eq_some_iff.mp hEnd with ⟨front, hFront⟩
  unfold put
  rw [hFront, List.foldl_append]
  simp [putChar]

/- Within a line a character is set down as it is. -/
theorem putChar_within
    {p : Page}
    {c : Char}
    (hWithin : p.atLineStart = false)
    (hOther : c ≠ '\n') :
    p.putChar c = { p with text := p.text.push c } := by
  simp [putChar, hOther, hWithin]

/- One that begins a line stands behind the margin. -/
theorem putChar_beginning
    {p : Page}
    {c : Char}
    (hStart : p.atLineStart = true)
    (hOther : c ≠ '\n') :
    p.putChar c =
      { p with
        text := (p.text ++ margin p.level).push c
        atLineStart := false } := by
  simp [putChar, hOther, hStart]

/- Within a line all characters are set down as they are. -/
theorem foldl_putChar_within
    {p : Page}
    {chars : List Char}
    (hWithin : p.atLineStart = false)
    (hLine : '\n' ∉ chars) :
    chars.foldl putChar p =
      { p with text := p.text ++ String.ofList chars } := by
  induction chars generalizing p with
  | nil => simp
  | cons c chars ih =>
      rw [List.mem_cons, not_or] at hLine
      have hRest :=
        ih (p := { p with text := p.text.push c }) hWithin
          hLine.2
      rw [List.foldl_cons,
        putChar_within hWithin (Ne.symm hLine.1), hRest]
      simp [String.ext_iff]

/- A line that has begun stands behind the margin. -/
theorem put_unended
    {p : Page}
    {line : List Char}
    (hStart : p.atLineStart = true)
    (hSome : line ≠ [])
    (hLine : '\n' ∉ line) :
    p.put (String.ofList line) =
      { p with
        text := p.text ++ String.ofList
          (marginChars p.level ++ line)
        atLineStart := false } := by
  cases line with
  | nil => exact absurd rfl hSome
  | cons c line =>
      rw [List.mem_cons, not_or] at hLine
      rw [put, String.toList_ofList, List.foldl_cons,
        putChar_beginning hStart (Ne.symm hLine.1),
        foldl_putChar_within rfl hLine.2]
      simp [String.ext_iff, marginChars]

/- So does one that has ended. -/
theorem put_line
    {p : Page}
    {line : List Char}
    (hStart : p.atLineStart = true)
    (hSome : line ≠ [])
    (hLine : '\n' ∉ line) :
    p.put (String.ofList (line ++ ['\n'])) =
      { p with
        text := p.text ++ String.ofList
          (marginChars p.level ++ line ++ ['\n']) } := by
  have hEnd :
      p.put (String.ofList (line ++ ['\n'])) =
        (p.put (String.ofList line)).putChar '\n' := by
    simp [put]
  rw [hEnd, put_unended hStart hSome hLine]
  simp [putChar, hStart, String.ext_iff]

/- So are lines one after the other. -/
theorem putParts_lines
    {p : Page}
    {rows : List (List Char)}
    (hStart : p.atLineStart = true)
    (hRows : ∀ row ∈ rows, row ≠ [] ∧ '\n' ∉ row) :
    p.putParts spellClass
        (rows.map fun row =>
          .text (String.ofList (row ++ ['\n']))) =
      { p with
        text := p.text ++ String.ofList
          (unlines (rows.map (marginChars p.level ++ ·))) } := by
  induction rows generalizing p with
  | nil => simp [putParts, unlines]
  | cons row rows ih =>
      rcases hRows row List.mem_cons_self with ⟨hSome, hLine⟩
      have hRest :
          ∀ other ∈ rows, other ≠ [] ∧ '\n' ∉ other :=
        fun other hOther =>
          hRows other (List.mem_cons_of_mem row hOther)
      have hPut := put_line hStart hSome hLine
      unfold putParts at ih ⊢
      rw [List.map_cons, List.foldl_cons, putPart, hPut,
        ih (by exact hStart) hRest]
      simp [unlines, String.ext_iff]

end Page

------------------------------------------------------------
-- Beginnings of Lines
------------------------------------------------------------

/- The text begins with a character that can be seen. -/
def BeginsVisibly (s : String) : Prop :=
  ∃ first ∈ s.toList.head?, first ≠ ' ' ∧ first ≠ '\n'

/- That character is set down before all others. -/
theorem BeginsVisibly.exists_put_eq
    {s : String}
    (hText : BeginsVisibly s)
    (p : Page) :
    ∃ first rest, first ≠ ' ' ∧ first ≠ '\n' ∧
      p.put s = (p.putChar first).put rest := by
  rcases hText with ⟨first, hFirst, hSpace, hFeed⟩
  rcases List.head?_eq_some_iff.mp hFirst with
    ⟨rest, hChars⟩
  refine ⟨first, String.ofList rest, hSpace, hFeed, ?_⟩
  simp [Page.put, hChars]

/- The first thing the code writes is such a text. -/
inductive Begins
    (spellClass : ClassName → String) :
    List Code.Part → Prop where
  | text
      {s : String}
      {rest : List Code.Part}
      (hText : BeginsVisibly s) :
      Begins spellClass (.text s :: rest)
  | type
      {t : TypeName}
      {rest : List Code.Part}
      (hText : BeginsVisibly (t.spell spellClass)) :
      Begins spellClass (.type t :: rest)

namespace Begins

variable {spellClass : ClassName → String}
variable {a : List Code.Part}

/- More code does not change how it begins. -/
theorem append
    (hA : Begins spellClass a)
    (b : List Code.Part) :
    Begins spellClass (a ++ b) := by
  cases hA with
  | text hText => exact .text hText
  | type hText => exact .type hText

/- Code begins so if what may stand before it does. -/
theorem behind
    {b : List Code.Part}
    (hB : Begins spellClass b)
    (hA : a = [] ∨ Begins spellClass a) :
    Begins spellClass (a ++ b) := by
  rcases hA with rfl | hA
  · exact hB
  · exact hA.append b

/- Its first character comes before all else it writes. -/
theorem exists_putParts_eq
    (hA : Begins spellClass a)
    (p : Page) :
    ∃ first rest, first ≠ ' ' ∧ first ≠ '\n' ∧
      p.putParts spellClass a =
        (p.putChar first).putParts spellClass rest := by
  cases hA with
  | @text s rest hText =>
      rcases hText.exists_put_eq p with
        ⟨first, more, hSpace, hFeed, hPut⟩
      exact ⟨first, .text more :: rest, hSpace, hFeed,
        congrArg (Page.putParts spellClass · rest) hPut⟩
  | @type t rest hText =>
      rcases hText.exists_put_eq p with
        ⟨first, more, hSpace, hFeed, hPut⟩
      exact ⟨first, .text more :: rest, hSpace, hFeed,
        congrArg (Page.putParts spellClass · rest) hPut⟩

/- At the start of a line it stands behind the margin. -/
theorem text_putParts
    {p : Page}
    (hA : Begins spellClass a)
    (hStart : p.atLineStart = true) :
    ∃ first below, first ≠ ' ' ∧ first ≠ '\n' ∧
      (p.putParts spellClass a).text =
        p.text ++ Page.margin p.level ++
          String.singleton first ++ below := by
  rcases hA.exists_putParts_eq p with
    ⟨first, rest, hSpace, hFeed, hPage⟩
  have hText :
      ((p.putChar first).putParts spellClass rest).text = _ :=
    Page.text_putParts _ rest
  rw [← hPage, Page.putChar_beginning hStart hFeed,
    String.push_eq_append] at hText
  exact ⟨first, _, hSpace, hFeed, hText⟩

end Begins

------------------------------------------------------------
-- Ends of Lines
------------------------------------------------------------

/- The page ends with a line and goes on with the next. -/
structure Page.EndsLine (p : Page) : Prop where
  atLineStart : p.atLineStart = true
  text : ∃ body, p.text = body ++ "\n"

/- The last thing the code writes is the end of a line. -/
def EndsLine (parts : List Code.Part) : Prop :=
  ∃ front s,
    parts = front ++ [.text s] ∧
      s.toList.getLast? = some '\n'

theorem EndsLine.append
    {parts : List Code.Part}
    (hParts : EndsLine parts)
    (before : List Code.Part) :
    EndsLine (before ++ parts) := by
  rcases hParts with ⟨front, s, rfl, hEnd⟩
  exact ⟨before ++ front, s, by simp, hEnd⟩

/- Such code leads to such a page. -/
theorem EndsLine.putParts
    {parts : List Code.Part}
    (hParts : EndsLine parts)
    (spellClass : ClassName → String)
    (p : Page) :
    (p.putParts spellClass parts).EndsLine := by
  rcases hParts with ⟨front, s, rfl, hEnd⟩
  rw [Page.putParts_append]
  refine ⟨Page.atLineStart_put _ s hEnd, ?_⟩
  rcases List.getLast?_eq_some_iff.mp hEnd with
    ⟨chars, hChars⟩
  refine ⟨((p.putParts spellClass front).put
    (String.ofList chars)).text, ?_⟩
  simp [Page.putParts, Page.putPart, Page.put, hChars,
    Page.putChar, String.ext_iff]

/- A brace that ends the outermost block is at the margin. -/
theorem Page.text_putParts_closing
    {spellClass : ClassName → String}
    {p : Page}
    (hStart : p.atLineStart = true)
    (hLevel : p.level = 1) :
    (p.putParts spellClass [.unindent, .text "\x7d\n"]).text =
      p.text ++ "\x7d\n" := by
  simp [putParts, putPart, put, putChar, hStart, hLevel,
    margin, String.ext_iff]

theorem Field.endsLine_layout
    (f : Field) :
    EndsLine f.layout :=
  ⟨_, ";\n", rfl, by decide⟩

theorem Method.endsLine_layout
    (m : Method)
    (enclosing : String)
    (inInterface : Bool) :
    EndsLine (m.layout enclosing inInterface) := by
  rw [Method.layout_eq_head]
  apply EndsLine.append
  unfold Method.bodyLayout
  split
  · exact ⟨[.text " \x7b\n", .indent] ++ m.body.parts ++
      [.unindent], "\x7d\n", by simp, by decide⟩
  · exact ⟨[], ";\n", rfl, by decide⟩

------------------------------------------------------------
-- Members on the Page
------------------------------------------------------------

namespace TypeDecl

/- All members end with a line. -/
theorem endsLine_members
    (d : TypeDecl) :
    ∀ member ∈ d.members, EndsLine member := by
  unfold members
  rw [List.forall_mem_append, List.forall_mem_map,
    List.forall_mem_map]
  exact ⟨fun f _ => f.endsLine_layout,
    fun m _ => m.endsLine_layout _ _⟩

variable {spellClass : ClassName → String}

/- The head of a type is a line of its own. -/
theorem endsLine_opening
    (d : TypeDecl)
    (p : Page) :
    (p.putParts spellClass d.opening).EndsLine := by
  have hHead : EndsLine (d.headLayout ++ [.text " \x7b\n"]) :=
    ⟨d.headLayout, " \x7b\n", rfl, by decide⟩
  have hOpening :
      d.opening =
        d.headLayout ++ [.text " \x7b\n"] ++ [.indent] := by
    simp [opening]
  rcases hHead.putParts spellClass p with ⟨hStart, hText⟩
  rw [hOpening, Page.putParts_append]
  exact ⟨hStart, hText⟩

/- A member begins a line. -/
theorem endsLine_beforeMember
    (d : TypeDecl)
    (before : List (List Code.Part))
    (p : Page) :
    (p.putParts spellClass (d.beforeMember before)).EndsLine := by
  unfold beforeMember
  rcases List.eq_nil_or_concat before with
    rfl | ⟨front, last, rfl⟩
  · simpa using d.endsLine_opening p
  · have hGap :
        EndsLine
          ((front.concat last).flatMap (· ++ [.text "\n"])) :=
      ⟨front.flatMap (· ++ [.text "\n"]) ++ last, "\n",
        by simp, by decide⟩
    exact (hGap.append d.opening).putParts spellClass p

/- So does the brace behind the members. -/
theorem endsLine_unclosed
    (d : TypeDecl)
    (p : Page) :
    (p.putParts spellClass d.unclosed).EndsLine := by
  have hEnds := d.endsLine_members
  unfold unclosed
  rcases List.eq_nil_or_concat d.members with
    hNone | ⟨front, last, hMembers⟩
  · rw [hNone]
    simpa [separated] using d.endsLine_opening p
  · rw [List.concat_eq_append] at hMembers
    have hLast : EndsLine last :=
      hEnds last (by simp [hMembers])
    rw [hMembers, separated_append_cons, List.flatMap_nil,
      List.append_nil, ← List.append_assoc]
    exact (hLast.append _).putParts spellClass p

end TypeDecl

end ClientGen.Java
