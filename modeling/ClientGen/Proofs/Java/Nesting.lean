import ClientGen.Proofs.Java.Indentation
import ClientGen.Proofs.Java.Mentions
import ClientGen.Proofs.Text.Pieces

/-
  Code at any level is its own text, moved to the right.

  Main declarations include:
    * `indented`
    * `Page.text_put_of_atLineStart`
    * `Page.onto`
    * `Page.Continues.onto_putParts`
    * `Page.putParts_of_balanced`
    * `TypeDecl.layout_eq_body`
    * `SourceFile.render_eq_body`
    * `rendering_relativeToLevel`

  A page can be set down on another one, line by line.  Code
  that is set down on both leads to pages of which one is
  still the other, set down again.
-/

namespace ClientGen.Java

open ClientGen.Text

------------------------------------------------------------
-- Indented Texts
------------------------------------------------------------

/- A line behind four spaces a level, unless it is empty. -/
def indentedLine
    (level : Nat)
    (line : List Char) :
    List Char :=
  if line = [] then []
  else List.replicate (4 * level) ' ' ++ line

/- A text with all its lines that are not empty indented. -/
def indented
    (level : Nat)
    (s : String) :
    String :=
  String.ofList
    (['\n'].intercalate
      ((pieces '\n' s.toList).map (indentedLine level)))

example :
    indented 2 "if (open) \x7b\n\n    close();\n" =
      "        if (open) \x7b\n\n            close();\n" := by
  decide

/- The margins of two levels make up one of both. -/
theorem marginChars_add
    (a b : Nat) :
    marginChars (a + b) = marginChars a ++ marginChars b := by
  simp [marginChars_eq, Nat.mul_add]

/- What stands in front of the first line stands in front. -/
theorem intercalate_append_cons
    (separator front line : List Char)
    (more : List (List Char)) :
    separator.intercalate ((front ++ line) :: more) =
      front ++ separator.intercalate (line :: more) := by
  cases more with
  | nil => simp [List.intercalate]
  | cons next more => simp [List.intercalate]

------------------------------------------------------------
-- Texts on a Page
------------------------------------------------------------

namespace Page

/-
  The line that a page goes on with: a new one is indented,
  and one that has begun is not.
-/
def firstLine
    (p : Page)
    (line : List Char) :
    List Char :=
  if p.atLineStart then indentedLine p.level line else line

/- A text is set down line by line. -/
theorem toList_text_foldl_putChar
    {p : Page}
    {chars line : List Char}
    {more : List (List Char)}
    (hLines : pieces '\n' chars = line :: more) :
    (chars.foldl putChar p).text.toList =
      p.text.toList ++ ['\n'].intercalate
        (p.firstLine line ::
          more.map (indentedLine p.level)) := by
  induction chars generalizing p line more with
  | nil =>
      cases hLines
      simp [firstLine, indentedLine, List.intercalate]
  | cons c chars ih =>
      cases hRest : pieces '\n' chars with
      | nil => exact absurd hRest (pieces_ne_nil chars)
      | cons next rest =>
          rw [List.foldl_cons, ih hRest]
          by_cases hFeed : c = '\n'
          · subst hFeed
            rw [pieces_separator_cons, hRest] at hLines
            cases hLines
            simp [putChar, firstLine, indentedLine,
              List.intercalate]
          · rw [pieces_cons_of_ne hFeed hRest] at hLines
            cases hLines
            cases hStart : p.atLineStart with
            | false =>
                have hLine :
                    p.firstLine (c :: next) = [c] ++ next := by
                  simp [firstLine, hStart]
                rw [hLine, intercalate_append_cons]
                simp [putChar, firstLine, hFeed, hStart]
            | true =>
                -- The margin comes with the first character.
                have hLine :
                    p.firstLine (c :: next) =
                      marginChars p.level ++ [c] ++ next := by
                  simp [firstLine, indentedLine, hStart,
                    marginChars_eq]
                rw [hLine, intercalate_append_cons]
                simp [putChar, firstLine, hFeed, hStart,
                  marginChars]

/- At the start of a line it is set down indented. -/
theorem text_put_of_atLineStart
    {p : Page}
    (hStart : p.atLineStart = true)
    (s : String) :
    (p.put s).text = p.text ++ indented p.level s := by
  cases hLines : pieces '\n' s.toList with
  | nil => exact absurd hLines (pieces_ne_nil s.toList)
  | cons line more =>
      rw [String.ext_iff, put,
        toList_text_foldl_putChar hLines]
      simp [indented, hLines, firstLine, hStart]

theorem put_push
    (p : Page)
    (s : String)
    (c : Char) :
    p.put (s.push c) = (p.put s).putChar c := by
  simp [put]

/- Every character decides whether the next begins a line. -/
theorem atLineStart_putChar
    (p : Page)
    (c : Char) :
    (p.putChar c).atLineStart = decide (c = '\n') := by
  unfold putChar
  split
  · simp [*]
  · split <;> simp_all

------------------------------------------------------------
-- Pages on Pages
------------------------------------------------------------

/-
  A page set down on another one, with its own levels below
  the level of that one.
-/
def onto
    (base p : Page) :
    Page :=
  { base.put p.text with level := base.level + p.level }

/- Both pages begin a line, or neither does. -/
def Continues (base p : Page) : Prop :=
  (base.onto p).atLineStart = p.atLineStart

variable {base p : Page}

/- A character leads to the same page on both of them. -/
theorem Continues.onto_putChar
    (hPage : Continues base p)
    (c : Char) :
    base.onto (p.putChar c) = (base.onto p).putChar c := by
  have hStart :
      (base.put p.text).atLineStart = p.atLineStart := hPage
  by_cases hFeed : c = '\n'
  · simp [onto, Page.putChar, put_push, hFeed]
  · cases hLine : p.atLineStart with
    | false =>
        rw [hLine] at hStart
        simp [onto, Page.putChar, put_push, hFeed, hLine, hStart]
    | true =>
        rw [hLine] at hStart
        -- Both margins are set down with the character.
        have hBegin :
            ∀ q : Page, q.atLineStart = true →
              q.putChar c =
                { q with
                  text := q.text ++ String.ofList
                    (marginChars q.level ++ [c])
                  atLineStart := false } := by
          intro q hQ
          simp [Page.putChar, hFeed, hQ, marginChars,
            String.ext_iff]
        have hInner : '\n' ∉ marginChars p.level ++ [c] := by
          simp [marginChars_eq, Ne.symm hFeed]
        rw [hBegin p hLine,
          hBegin (base.onto p) (hPage.trans hLine)]
        simp only [onto, put_append,
          put_unended hStart (by simp) hInner]
        simp [marginChars_add]

/- So it keeps them alike. -/
theorem Continues.putChar
    (hPage : Continues base p)
    (c : Char) :
    Continues base (p.putChar c) := by
  unfold Continues
  rw [hPage.onto_putChar, atLineStart_putChar,
    atLineStart_putChar]

/- Texts lead to the same page on both, -/
theorem Continues.onto_put
    (hPage : Continues base p)
    (s : String) :
    base.onto (p.put s) = (base.onto p).put s ∧
      Continues base (p.put s) := by
  unfold put
  generalize s.toList = chars
  induction chars generalizing p with
  | nil => exact ⟨rfl, hPage⟩
  | cons c chars ih =>
      rw [List.foldl_cons, List.foldl_cons,
        ← hPage.onto_putChar]
      exact ih (hPage.putChar c)

variable {spellClass : ClassName → String}

/- And so does code that never leaves the level it is on. -/
theorem Continues.onto_putParts
    {parts : List Code.Part}
    {after : Nat}
    (hPage : Continues base p)
    (hAfter : levelAfter? p.level parts = some after) :
    base.onto (p.putParts spellClass parts) =
      (base.onto p).putParts spellClass parts := by
  induction parts generalizing p with
  | nil => rfl
  | cons part rest ih =>
      -- One part keeps the pages alike and the rest level.
      have hPart :
          base.onto (p.putPart spellClass part) =
              (base.onto p).putPart spellClass part ∧
            Continues base (p.putPart spellClass part) ∧
            levelAfter? (p.putPart spellClass part).level rest =
              some after := by
        cases part with
        | text s =>
            rcases hPage.onto_put s with ⟨hText, hNext⟩
            exact ⟨hText, hNext,
              by simpa [putPart, levelAfter?] using hAfter⟩
        | type t =>
            rcases hPage.onto_put (t.spell spellClass) with
              ⟨hText, hNext⟩
            exact ⟨hText, hNext,
              by simpa [putPart, levelAfter?] using hAfter⟩
        | indent => exact ⟨rfl, hPage, hAfter⟩
        | unindent =>
            rw [levelAfter?] at hAfter
            split at hAfter
            · cases hAfter
            · rename_i hLevel
              refine ⟨?_, hPage, hAfter⟩
              have hLower :
                  base.level + (p.level - 1) =
                    base.level + p.level - 1 := by
                omega
              simp [onto, putPart, hLower]
      rcases hPart with ⟨hText, hNext, hRest⟩
      unfold putParts at ih ⊢
      rw [List.foldl_cons, List.foldl_cons, ← hText]
      exact ih hNext hRest

/-
  At the start of a line, setting down balanced code is to
  set down the text that it is on a page of its own.
-/
theorem putParts_of_balanced
    {parts : List Code.Part}
    (hStart : p.atLineStart = true)
    (hParts : Balanced parts) :
    p.putParts spellClass parts =
      p.put (renderParts spellClass parts) := by
  have hBlank : p.onto blank = p := by
    simp [onto, blank, put]
  have hLevel := hParts.levelAfter? 0
  have hPage : Continues p blank := by
    rw [Continues, hBlank, hStart]
    rfl
  have hOnto :
      p.onto (blank.putParts spellClass parts) =
        (p.onto blank).putParts spellClass parts :=
    hPage.onto_putParts hLevel
  have hLast : (blank.putParts spellClass parts).level = 0 :=
    level_putParts hLevel
  rw [hBlank] at hOnto
  rw [← hOnto, onto, hLast, Nat.add_zero, ← level_put p]
  rfl

end Page

------------------------------------------------------------
-- Bodies of Methods
------------------------------------------------------------

namespace TypeDecl

/- The methods of a type, written out. -/
def methodLayouts
    (d : TypeDecl)
    (methods : List Method) :
    List (List Code.Part) :=
  methods.map fun m => m.layout d.name (d.kind == .interfaceType)

/- A type up to the body of a method behind some others. -/
def beforeBody
    (d : TypeDecl)
    (earlier : List Method)
    (m : Method) :
    List Code.Part :=
  d.beforeMember
      (d.fields.map Field.layout ++ d.methodLayouts earlier) ++
    m.headLayout d.name ++ [.text " \x7b\n", .indent]

/- A type behind the body of a method before some others. -/
def behindBody
    (d : TypeDecl)
    (later : List Method) :
    List Code.Part :=
  [.unindent, .text "\x7d\n"] ++
    behindMember (d.methodLayouts later)

variable {d : TypeDecl}
variable {earlier later : List Method}
variable {m : Method}

/- A type, split at the body of one of its methods. -/
theorem layout_eq_body
    (hMethods : d.methods = earlier ++ m :: later)
    (hBody : m.hasBody (d.kind == .interfaceType) = true) :
    d.layout =
      d.beforeBody earlier m ++ m.body.parts ++
        d.behindBody later := by
  have hMembers :
      d.members =
        (d.fields.map Field.layout ++ d.methodLayouts earlier) ++
          m.layout d.name (d.kind == .interfaceType) ::
            d.methodLayouts later := by
    simp [members, methodLayouts, hMethods]
  rw [layout_eq_split hMembers, Method.layout_eq_head,
    Method.bodyLayout, if_pos hBody]
  simp [beforeBody, behindBody]

/- Two levels lead to the body of a method, -/
theorem Indented.levelAfter?_beforeBody
    (hType : d.Indented)
    (hMethods : d.methods = earlier ++ m :: later) :
    levelAfter? 0 (d.beforeBody earlier m) = some 2 := by
  have hMembers :
      d.members =
        (d.fields.map Field.layout ++ d.methodLayouts earlier) ++
          d.methodLayouts (m :: later) := by
    simp [members, methodLayouts, hMethods]
  have hMethod : m.Indented :=
    hType.methods m (by simp [hMethods])
  rw [beforeBody, levelAfter?_append, levelAfter?_append,
    hType.levelAfter?_beforeMember hMembers,
    Option.bind_some,
    (hMethod.balanced_headLayout d.name).levelAfter?]
  rfl

/- Which begins a line. -/
theorem atLineStart_beforeBody
    (spellClass : ClassName → String)
    (p : Page) :
    (p.putParts spellClass
      (d.beforeBody earlier m)).atLineStart = true := by
  obtain ⟨opening, hOpening, hEnds⟩ :
      ∃ opening,
        d.beforeBody earlier m = opening ++ [.indent] ∧
          EndsLine opening :=
    ⟨d.beforeMember
          (d.fields.map Field.layout ++
            d.methodLayouts earlier) ++
        m.headLayout d.name ++ [.text " \x7b\n"],
      by simp [beforeBody], _, " \x7b\n", rfl, by decide⟩
  have hIndent :
      ∀ q : Page,
        (q.putParts spellClass [.indent]).atLineStart =
          q.atLineStart := fun _ => rfl
  rw [hOpening, Page.putParts_append, hIndent,
    (hEnds.putParts spellClass p).atLineStart]

end TypeDecl

namespace SourceFile

/- The page in front of the body of a method. -/
def pageBefore
    (f : SourceFile)
    (earlier : List Method)
    (m : Method) :
    Page :=
  Page.blank.putParts f.scope.spell
    (f.declaration.beforeBody earlier m)

variable {f : SourceFile}
variable {earlier later : List Method}
variable {m : Method}

/- A balanced body stands indented in the text of the file. -/
theorem render_eq_body
    (hMethods : f.declaration.methods = earlier ++ m :: later)
    (hBody :
      m.hasBody (f.declaration.kind == .interfaceType) = true)
    (hBalanced : Balanced m.body.parts) :
    ∃ rest,
      f.render =
        f.commentText ++ f.packageText ++ f.importsText ++
          (f.pageBefore earlier m).text ++
          indented (f.pageBefore earlier m).level
            (renderParts f.scope.spell m.body.parts) ++
          rest := by
  have hStart : (f.pageBefore earlier m).atLineStart = true :=
    TypeDecl.atLineStart_beforeBody f.scope.spell Page.blank
  have hPage :
      renderParts f.scope.spell f.declaration.layout =
        (((f.pageBefore earlier m).putParts f.scope.spell
          m.body.parts).putParts f.scope.spell
            (f.declaration.behindBody later)).text := by
    rw [renderParts, TypeDecl.layout_eq_body hMethods hBody,
      Page.putParts_append, Page.putParts_append, pageBefore]
  rw [render, hPage, Page.text_putParts,
    Page.putParts_of_balanced hStart hBalanced,
    Page.text_put_of_atLineStart hStart]
  exact ⟨_, by simp only [String.append_assoc]; rfl⟩

end SourceFile

/-
  At the start of a line of any level, balanced code writes
  its text of a page of its own with all lines that are not
  empty that much further to the right, and leaves the level
  as it was.  So does a method's body in the text of a file,
  two levels deep where everything in the type is balanced,
  and but for the spelling of classes it is the text that
  the body is on its own.
-/
theorem rendering_relativeToLevel :
    (∀ (spellClass : ClassName → String) (p : Page)
        (code : Code),
      p.atLineStart = true → Balanced code.parts →
        (p.putParts spellClass code.parts).text =
            p.text ++ indented p.level
              (renderParts spellClass code.parts) ∧
          (p.putParts spellClass code.parts).level =
            p.level) ∧
    ∀ (f : SourceFile) (earlier later : List Method)
        (m : Method),
      f.declaration.methods = earlier ++ m :: later →
      m.hasBody (f.declaration.kind == .interfaceType) =
        true →
      Balanced m.body.parts →
        (∃ rest,
          f.render =
            f.commentText ++ f.packageText ++ f.importsText ++
              (f.pageBefore earlier m).text ++
              indented (f.pageBefore earlier m).level
                (renderParts f.scope.spell m.body.parts) ++
              rest) ∧
          (f.declaration.Indented →
            (f.pageBefore earlier m).level = 2) ∧
          ((∀ c ∈ m.body.mentions,
              f.scope.spell c = c.relative) →
            renderParts f.scope.spell m.body.parts =
              m.body.render) := by
  refine ⟨?code, ?bodies⟩
  case code =>
    intro spellClass p code hStart hCode
    rw [Page.putParts_of_balanced hStart hCode]
    exact ⟨Page.text_put_of_atLineStart hStart _,
      Page.level_put p _⟩
  case bodies =>
    intro f earlier later m hMethods hBody hBalanced
    refine ⟨SourceFile.render_eq_body hMethods hBody hBalanced,
      ?_, ?_⟩
    · intro hType
      exact Page.level_putParts
        (hType.levelAfter?_beforeBody hMethods)
    · intro hSpell
      apply renderParts_congr
      intro c hC
      exact hSpell c (flatMap_written_subset _ hC)

/- A test with a statement inside. -/
def guardedClearing : Code :=
  .ofParts
    (block
      [.text "if (",
        .type (.class (.inPackage "java.util" "Objects")),
        .text ".nonNull(basket))"]
      (statement [.text "basket.clear()"]))

/- A method with nothing but that test. -/
def guardedClosing : Method where
  kind := .method "close"
  body := guardedClearing

/- A class with that method behind its constructor. -/
def guardedShop : SourceFile where
  package := "com.example"
  type :=
    { kind := .classType
      name := "Shop"
      methods := [{ kind := .constructor }, guardedClosing] }
  comment := none
  marker := none

/- The test is the same one level and two levels deep. -/
theorem rendering_relativeToLevel_guardedShop :
    Balanced guardedClearing.parts ∧
      guardedClearing.render =
        "if (Objects.nonNull(basket)) \x7b\n" ++
          "    basket.clear();\n\x7d\n" ∧
      ((Page.mk "do \x7b\n" 1 true).putParts ClassName.relative
          guardedClearing.parts).text =
        "do \x7b\n    if (Objects.nonNull(basket)) \x7b\n" ++
          "        basket.clear();\n    \x7d\n" ∧
      ∃ front rest,
        guardedShop.render =
          front ++ indented 2 guardedClearing.render ++
            rest := by
  rcases rendering_relativeToLevel with ⟨hCode, hBodies⟩
  have hBalanced : Balanced guardedClearing.parts := by
    simp [guardedClearing]
  have hText :
      guardedClearing.render =
        "if (Objects.nonNull(basket)) \x7b\n" ++
          "    basket.clear();\n\x7d\n" := by
    decide +kernel
  refine ⟨hBalanced, hText, ?deeper, ?body⟩
  case deeper =>
    have hDeeper :=
      hCode ClassName.relative ⟨"do \x7b\n", 1, true⟩
        guardedClearing rfl hBalanced
    rw [hDeeper.1, ← Code.render, hText]
    decide +kernel
  case body =>
    have hMethods :
        ∀ m ∈ guardedShop.declaration.methods, m.Indented := by
      intro m hM
      have hCases :
          m = { kind := .constructor } ∨
            m = guardedClosing := by
        simpa [guardedShop, SourceFile.declaration] using hM
      rcases hCases with rfl | rfl
      · exact ⟨nofun, balanced_nil⟩
      · exact ⟨nofun, hBalanced⟩
    have hSpell :
        ∀ c ∈ guardedClosing.body.mentions,
          guardedShop.scope.spell c = c.relative := by
      decide +kernel
    rcases hBodies guardedShop [{ kind := .constructor }] []
        guardedClosing rfl (by decide) hBalanced with
      ⟨⟨rest, hRender⟩, hDepth, hOwn⟩
    rw [hDepth ⟨nofun, nofun, hMethods⟩, hOwn hSpell]
      at hRender
    exact ⟨_, rest, hRender⟩

end ClientGen.Java
