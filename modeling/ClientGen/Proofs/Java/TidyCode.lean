import ClientGen.Proofs.Java.GeneratedMarker
import ClientGen.Proofs.Java.Lexical

/-
  Code that leaves no blanks at the ends of its lines.

  Main declarations include:
    * `Code.outline`
    * `InLine`
    * `TidyParts`
    * `TidyParts.block`
    * `Page.Leaves.putParts`
    * `TypeName.closes_spell`
    * `tidy_renderParts`

  A type is written as one word, whatever it is, so lines of
  code end as they would with a letter in its place.  The
  margin of a line comes with the first character after it
  and never stands alone.
-/

namespace ClientGen.Java

open ClientGen.Text

------------------------------------------------------------
-- Outlines
------------------------------------------------------------

namespace Code

/- The characters of an atom, with a letter for a type. -/
def Atom.outline : Atom → List Char
  | .char c => [c]
  | .type _ => ['T']
  | .indent => []
  | .unindent => []

/- The characters of code, with a letter for every type. -/
def outline
    (parts : List Part) :
    List Char :=
  (atoms parts).flatMap Atom.outline

@[simp]
theorem outline_nil :
    outline [] = [] :=
  rfl

@[simp]
theorem outline_append
    (a b : List Part) :
    outline (a ++ b) = outline a ++ outline b := by
  simp [outline]

@[simp]
theorem outline_text_cons
    (s : String)
    (rest : List Part) :
    outline (.text s :: rest) = s.toList ++ outline rest := by
  simp [outline, Atom.outline, List.flatMap_map]

@[simp]
theorem outline_type_cons
    (t : TypeName)
    (rest : List Part) :
    outline (.type t :: rest) = 'T' :: outline rest :=
  rfl

@[simp]
theorem outline_indent_cons
    (rest : List Part) :
    outline (.indent :: rest) = outline rest :=
  rfl

@[simp]
theorem outline_unindent_cons
    (rest : List Part) :
    outline (.unindent :: rest) = outline rest :=
  rfl

/- The normal form has the same characters. -/
@[simp]
theorem outline_ofParts
    (parts : List Part) :
    outline (ofParts parts).parts = outline parts := by
  rw [outline, atoms_ofParts]
  rfl

end Code

open Code (Part outline Part.isLegal_type_iff)

------------------------------------------------------------
-- Code Within a Line
------------------------------------------------------------

/- The code does not go on to another line. -/
def InLine (parts : List Part) : Prop :=
  '\n' ∉ outline parts

@[simp]
theorem inLine_nil :
    InLine [] :=
  List.not_mem_nil

@[simp]
theorem inLine_text_cons_iff
    {s : String}
    {rest : List Part} :
    InLine (.text s :: rest) ↔
      '\n' ∉ s.toList ∧ InLine rest := by
  simp [InLine]

@[simp]
theorem inLine_quotedText_cons_iff
    {value : String}
    {rest : List Part} :
    InLine (quotedText value :: rest) ↔ InLine rest := by
  rw [quotedText, inLine_text_cons_iff,
    and_iff_right (newline_not_mem_stringLiteral value)]

@[simp]
theorem inLine_type_cons_iff
    {t : TypeName}
    {rest : List Part} :
    InLine (.type t :: rest) ↔ InLine rest := by
  simp [InLine]

@[simp]
theorem inLine_append_iff
    {a b : List Part} :
    InLine (a ++ b) ↔ InLine a ∧ InLine b := by
  simp [InLine]

/- Groups within a line may be listed there. -/
theorem inLine_separated
    {separator : String}
    {groups : List (List Part)}
    (hSeparator : '\n' ∉ separator.toList)
    (hGroups : ∀ group ∈ groups, InLine group) :
    InLine (separated separator groups) := by
  fun_induction separated separator groups with
  | case1 => exact inLine_nil
  | case2 only => simpa using hGroups
  | case3 first next more ih =>
      rw [List.forall_mem_cons] at hGroups
      simp [hGroups.1, hSeparator, ih hGroups.2]

theorem InLine.flows
    {parts : List Part}
    (hParts : InLine parts) :
    Flows (outline parts) :=
  flows_of_newline_not_mem hParts

------------------------------------------------------------
-- Tidy Code
------------------------------------------------------------

/- On a new line the code leaves no blanks at any end. -/
def TidyParts (parts : List Part) : Prop :=
  Tidy (outline parts)

@[simp]
theorem tidyParts_nil :
    TidyParts [] :=
  tidy_nil

/- The normal form is tidy if the parts are. -/
@[simp]
theorem tidyParts_ofParts_iff
    {parts : List Part} :
    TidyParts (Code.ofParts parts).parts ↔
      TidyParts parts := by
  rw [TidyParts, Code.outline_ofParts]
  rfl

/- Code on a line may be ended with a text. -/
theorem InLine.closes
    {parts : List Part}
    {s : String}
    (hParts : InLine parts)
    (hEnd : Closes s.toList) :
    Closes (outline (parts ++ [.text s])) := by
  simpa using hParts.flows.closes hEnd

/- The end of the line may belong to its last text. -/
theorem InLine.tidyParts_ended
    {parts : List Part}
    {s ending : String}
    (hParts : InLine (parts ++ [.text s]))
    (hEnd : Closes ending.toList) :
    TidyParts (parts ++ [.text (s ++ ending)]) := by
  have hClosed := (hParts.closes hEnd).tidy
  unfold TidyParts
  simpa using hClosed

/- A statement on one line is tidy. -/
@[simp]
theorem tidyParts_statement
    {parts : List Part}
    (hParts : InLine parts) :
    TidyParts (statement parts) :=
  (hParts.closes (by decide)).tidy

/- So is a block, with what comes in front of it. -/
theorem InLine.closes_opened
    {head body : List Part}
    (hHead : InLine head)
    (hBody : Tidy (outline body)) :
    Closes (outline
      (head ++ [.text " \x7b\n", .indent] ++ body)) := by
  have hOpened :
      Closes (outline
        (head ++ [.text " \x7b\n", .indent])) := by
    rw [Code.outline_append]
    exact hHead.flows.closes rfl
  rw [Code.outline_append]
  exact hOpened.append hBody

theorem InLine.closes_block
    {head body : List Part}
    (hHead : InLine head)
    (hBody : TidyParts body) :
    Closes (outline (block head body)) := by
  rw [block, Code.outline_append]
  exact (hHead.closes_opened hBody).append rfl

/- Code on lines of its own may be joined by their ends. -/
theorem closes_join
    {blocks : List Code}
    (hSome : blocks ≠ [])
    (hBlocks : ∀ code ∈ blocks, Closes (outline code.parts)) :
    Closes (outline (Code.join blocks "\n").parts) := by
  rw [Code.join, Code.outline_ofParts]
  fun_induction Code.joinedParts "\n" blocks with
  | case1 => exact absurd rfl hSome
  | case2 only => simpa using hBlocks
  | case3 first next more ih =>
      rw [List.forall_mem_cons] at hBlocks
      have hRest :=
        ih (List.cons_ne_nil next more) hBlocks.2
      rw [Code.outline_append, Code.outline_text_cons]
      exact hBlocks.1.append
        (Tidy.append (a := "\n".toList) rfl hRest.tidy)

namespace TidyParts

/- Tidy code may follow tidy code. -/
@[simp]
theorem append
    {a b : List Part}
    (hA : TidyParts a)
    (hB : TidyParts b) :
    TidyParts (a ++ b) := by
  rw [TidyParts, Code.outline_append]
  exact Tidy.append hA hB

/- It may follow a line that is a literal. -/
theorem line_cons
    {s : String}
    {line : List Char}
    {rest : List Part}
    (hText : s = String.ofList line)
    (hLine : Tidy line)
    (hRest : TidyParts rest) :
    TidyParts (.text s :: rest) := by
  rw [TidyParts, Code.outline_text_cons]
  exact (tidy_literal hText hLine).append hRest

/- So may any number of pieces follow each other. -/
theorem flatMap
    {α : Type}
    {items : List α}
    {parts : α → List Part}
    (hItems : ∀ item ∈ items, TidyParts (parts item)) :
    TidyParts (items.flatMap parts) := by
  induction items with
  | nil => exact tidyParts_nil
  | cons item items ih =>
      rw [List.forall_mem_cons] at hItems
      exact hItems.1.append (ih hItems.2)

/- Blocks and continued lines are tidy if their pieces are. -/
@[simp]
theorem block
    {head body : List Part}
    (hHead : InLine head)
    (hBody : TidyParts body) :
    TidyParts (Java.block head body) :=
  (hHead.closes_block hBody).tidy

@[simp]
theorem followed
    {head body nextHead nextBody : List Part}
    (hHead : InLine head)
    (hBody : TidyParts body)
    (hNextHead : InLine nextHead)
    (hNextBody : TidyParts nextBody) :
    TidyParts
      (Java.followed head body nextHead nextBody) := by
  have hBetween : InLine ([.text "\x7d "] ++ nextHead) := by
    simp [hNextHead]
  have hNext :
      TidyParts (Java.block ([.text "\x7d "] ++ nextHead)
        nextBody) :=
    (hBetween.closes_block hNextBody).tidy
  have hFirst :
      TidyParts
        (head ++ [.text " \x7b\n", .indent] ++ body) :=
    (hHead.closes_opened hBody).tidy
  have hAll := hFirst.append hNext
  unfold TidyParts Java.block at hAll
  unfold TidyParts Java.followed
  simpa using hAll

@[simp]
theorem continued
    {head lines : List Part}
    (hHead : TidyParts head)
    (hLines : TidyParts lines) :
    TidyParts (Java.continued head lines) :=
  ((hHead.append (b := [.indent, .indent]) rfl).append
    hLines).append rfl

/- Whole lines may have empty ones between them. -/
theorem separated
    {groups : List (List Part)}
    (hGroups : ∀ group ∈ groups, TidyParts group) :
    TidyParts (Java.separated "\n" groups) := by
  fun_induction Java.separated "\n" groups with
  | case1 => exact tidyParts_nil
  | case2 only => simpa using hGroups
  | case3 first next more ih =>
      rw [List.forall_mem_cons] at hGroups
      exact hGroups.1.append
        (append (a := [.text "\n"]) rfl (ih hGroups.2))

end TidyParts

------------------------------------------------------------
-- Pages
------------------------------------------------------------

/-
  The lines on the page are tidy up to here.  On a new line
  no blank stands in front of what comes next.
-/
structure Page.Leaves
    (p : Page)
    (blank : Bool) :
    Prop where
  text : blankAfter? false p.text.toList = some blank
  start : p.atLineStart = true → blank = false

namespace Page.Leaves

variable {spellClass : ClassName → String}
variable {p : Page}
variable {blank after : Bool}

/- One character, with the margin in front of it. -/
theorem putChar
    {c : Char}
    (hPage : p.Leaves blank)
    (hAfter : blankAfter? blank [c] = some after) :
    (p.putChar c).Leaves after := by
  unfold Page.putChar
  split
  · rename_i hFeed
    subst hFeed
    cases blank with
    | true => cases hAfter
    | false =>
        cases hAfter
        refine ⟨?_, fun _ => rfl⟩
        rw [String.toList_push, blankAfter?_append,
          hPage.text]
        rfl
  · rename_i hOther
    split
    · have hMargin : Flows (marginChars p.level) := by
        apply flows_of_newline_not_mem
        intro hMem
        exact absurd (eq_space_of_mem_marginChars hMem)
          (by decide)
      rcases hMargin.exists_blankAfter? blank with
        ⟨between, hBetween⟩
      rw [blankAfter?, if_neg hOther] at hAfter
      refine ⟨?_, fun hStart => absurd hStart (by simp)⟩
      rw [String.toList_push, String.toList_append,
        blankAfter?_append, blankAfter?_append, hPage.text,
        Option.bind_some]
      unfold marginChars at hBetween
      rw [hBetween, Option.bind_some, blankAfter?,
        if_neg hOther, hAfter]
    · rename_i hWithin
      refine ⟨?_, fun hStart => absurd hStart hWithin⟩
      rw [String.toList_push, blankAfter?_append, hPage.text,
        Option.bind_some, hAfter]

/- A text is set down character by character. -/
theorem put
    {s : String}
    (hPage : p.Leaves blank)
    (hAfter : blankAfter? blank s.toList = some after) :
    (p.put s).Leaves after := by
  unfold Page.put
  generalize s.toList = chars at hAfter
  induction chars generalizing p blank with
  | nil =>
      cases hAfter
      exact hPage
  | cons c chars ih =>
      rw [← List.singleton_append, blankAfter?_append] at hAfter
      rcases Option.bind_eq_some_iff.mp hAfter with
        ⟨between, hFirst, hRest⟩
      exact ih (hPage.putChar hFirst) hRest

/- Code is, if a word is set down for every type. -/
theorem putParts
    {parts : List Part}
    (hPage : p.Leaves blank)
    (hTypes :
      ∀ t, .type t ∈ parts →
        Closes (t.spell spellClass).toList)
    (hAfter : blankAfter? blank (outline parts) = some after) :
    (p.putParts spellClass parts).Leaves after := by
  induction parts generalizing p blank with
  | nil =>
      cases hAfter
      exact hPage
  | cons part rest ih =>
      have hRest :
          ∀ t, .type t ∈ rest →
            Closes (t.spell spellClass).toList :=
        fun t hT => hTypes t (List.mem_cons_of_mem part hT)
      cases part with
      | text s =>
          rw [Code.outline_text_cons,
            blankAfter?_append] at hAfter
          rcases Option.bind_eq_some_iff.mp hAfter with
            ⟨between, hFirst, hMore⟩
          exact ih (hPage.put hFirst) hRest hMore
      | type t =>
          -- The word leaves no blank, and nor does the letter.
          have hWord := hTypes t List.mem_cons_self
          exact ih (hPage.put (hWord.blankAfter?_eq blank))
            hRest hAfter
      | indent =>
          exact ih (p := { p with level := p.level + 1 })
            ⟨hPage.text, hPage.start⟩ hRest hAfter
      | unindent =>
          exact ih (p := { p with level := p.level - 1 })
            ⟨hPage.text, hPage.start⟩ hRest hAfter

end Page.Leaves

------------------------------------------------------------
-- Words
------------------------------------------------------------

/- No character of a name is blank. -/
theorem isBlank_of_isIdentifierPart
    {c : Char}
    (hPart : isIdentifierPart c = true) :
    isBlank c = false := by
  have hRange := range_of_isIdentifierPart hPart
  simp [isBlank]
  omega

theorem closes_of_hasIdentifierForm
    {chars : List Char}
    (hForm : hasIdentifierForm chars = true) :
    Closes chars := by
  rcases all_isIdentifierPart_of_form hForm with
    ⟨hSome, hParts⟩
  exact closes_of_forall_not_blank hSome
    fun c hC => isBlank_of_isIdentifierPart (hParts c hC)

theorem closes_of_isIdentifier
    {name : String}
    (hName : isIdentifier name = true) :
    Closes name.toList :=
  closes_of_hasIdentifierForm
    (hasIdentifierForm_of_isIdentifier hName)

theorem newline_not_mem_of_isIdentifier
    {name : String}
    (hName : isIdentifier name = true) :
    '\n' ∉ name.toList := by
  intro hMem
  exact absurd ((all_isIdentifierPart hName).2 _ hMem)
    (by decide)

/- Blanks stand in no name, also of a class. -/
theorem not_part_of_isBlank
    {c : Char}
    (hBlank : isBlank c = true) :
    isIdentifierPart c = false ∧ c ≠ '.' := by
  refine ⟨?_, ?_⟩
  · by_contra hPart
    rw [Bool.not_eq_false] at hPart
    rw [isBlank_of_isIdentifierPart hPart] at hBlank
    cases hBlank
  · rintro rfl
    exact absurd hBlank (by decide)

/- A text of names and dots holds no blanks. -/
theorem isBlank_of_names
    {text : List Char}
    (hNames :
      ∀ {d : Char}, isIdentifierPart d = false → d ≠ '.' →
        d ∉ text) :
    ∀ c ∈ text, isBlank c = false := by
  intro c hC
  by_contra hBlank
  rw [Bool.not_eq_false] at hBlank
  rcases not_part_of_isBlank hBlank with ⟨hPart, hDot⟩
  exact hNames hPart hDot hC

namespace ClassName.IsLegal

variable {c : ClassName}

/- The name of a class is a word, -/
theorem closes_relative
    (hC : c.IsLegal) :
    Closes c.relative.toList :=
  closes_of_forall_not_blank
    (mt String.toList_eq_nil_iff.mp hC.relative_ne_empty)
    (isBlank_of_names hC.not_mem_relative)

/- And so is its full name. -/
theorem closes_canonical
    (hC : c.IsLegal) :
    Closes c.canonical.toList :=
  closes_of_forall_not_blank
    (mt String.toList_eq_nil_iff.mp hC.canonical_ne_empty)
    (isBlank_of_names hC.not_mem_canonical)

end ClassName.IsLegal

/- How a file spells classes: with a word for each of them. -/
def SpellsWords (spellClass : ClassName → String) : Prop :=
  ∀ c : ClassName, c.IsLegal → Closes (spellClass c).toList

theorem Scope.spellsWords
    (scope : Scope) :
    SpellsWords scope.spell := by
  intro c hC
  unfold spell
  split
  · exact hC.closes_relative
  · exact hC.closes_canonical

mutual

/- A legal type leaves no blank behind itself, -/
theorem TypeName.closes_spell
    {spellClass : ClassName → String}
    (hSpell : SpellsWords spellClass) :
    (t : TypeName) → t.IsLegal →
      Closes (t.spell spellClass).toList
  | .void, _ => by
      rw [TypeName.spell]
      decide
  | .primitive kind, hType => by
      rw [isLegal_primitive_iff] at hType
      rw [TypeName.spell]
      exact closes_of_hasIdentifierForm hType
  | .class c, hType => by
      rw [TypeName.spell]
      exact hSpell c (isLegal_class_iff.mp hType)
  | .generic raw arguments, hType => by
      rw [isLegal_generic_iff] at hType
      have hRaw := (hSpell raw hType.1).flows
      have hArguments :=
        TypeName.flows_spellAll hSpell arguments hType.2
      simp only [TypeName.spell, String.toList_append]
      exact ((hRaw.append (by decide)).append
        hArguments).closes rfl
  | .array component, hType => by
      rw [isLegal_array_iff] at hType
      have hComponent :=
        TypeName.closes_spell hSpell component hType
      rw [TypeName.spell, String.toList_append]
      exact hComponent.flows.closes rfl
  | .variable name _, hType => by
      rw [isLegal_variable_iff] at hType
      rw [TypeName.spell]
      exact closes_of_isIdentifier hType.1

/- And such types may be listed. -/
theorem TypeName.flows_spellAll
    {spellClass : ClassName → String}
    (hSpell : SpellsWords spellClass) :
    (types : List TypeName) → (∀ t ∈ types, t.IsLegal) →
      Flows (joinWith ", "
        (TypeName.spellAll spellClass types)).toList
  | [], _ => by
      rw [TypeName.spellAll]
      exact flows_nil
  | [t], hTypes => by
      rw [List.forall_mem_singleton] at hTypes
      have hOnly :=
        TypeName.closes_spell hSpell t hTypes
      simpa only [TypeName.spellAll, joinWith] using hOnly.flows
  | t :: next :: more, hTypes => by
      rw [List.forall_mem_cons] at hTypes
      have hFirst :=
        TypeName.closes_spell hSpell t hTypes.1
      have hRest :=
        TypeName.flows_spellAll hSpell (next :: more) hTypes.2
      simp only [TypeName.spellAll, joinWith,
        String.toList_append] at hRest ⊢
      exact (hFirst.flows.append (by decide)).append hRest

end

/- Tidy code whose types are legal is a tidy text. -/
theorem tidy_renderParts
    {spellClass : ClassName → String}
    {parts : List Part}
    (hSpell : SpellsWords spellClass)
    (hParts : TidyParts parts)
    (hLegal : ∀ p ∈ parts, p.IsLegal) :
    Tidy (renderParts spellClass parts).toList := by
  have hBlank : Page.blank.Leaves false :=
    ⟨rfl, fun _ => rfl⟩
  have hTypes :
      ∀ t, .type t ∈ parts →
        Closes (t.spell spellClass).toList := by
    intro t hT
    exact t.closes_spell hSpell
      (Part.isLegal_type_iff.mp (hLegal _ hT))
  exact (hBlank.putParts hTypes hParts).text

end ClientGen.Java
