import ClientGen.Proofs.Java.Regular
import ClientGen.Proofs.Java.Scoping
import ClientGen.Proofs.Java.TidyCode

/-
  Files that leave no blanks at the ends of their lines.

  Main declarations include:
    * `tidy_commentLines`
    * `Method.IsTidy`
    * `Method.tidyParts_layout`
    * `TypeDecl.IsTidy`
    * `TypeDecl.tidyParts_layout`
    * `TypeDecl.LexicallySafe.forall_mem_layout`
    * `SourceFile.tidy_render`

  The head of a declaration stands on one line if its names
  are identifiers, and ends with a brace.  So only bodies and
  comments can leave a blank at the end of a line.
-/

namespace ClientGen.Java

open ClientGen.Text
open Code (Part outline)

------------------------------------------------------------
-- Comments
------------------------------------------------------------

/- Text that can be put into a comment as it is. -/
def TidyText (text : String) : Prop :=
  TrimmedLines (trimEnd text.toList)

/- A text on one line can. -/
theorem tidyText_of_newline_not_mem
    {text : String}
    (hText : '\n' ∉ text.toList) :
    TidyText text :=
  trimmedLines_of_newline_not_mem hText

/- So can none. -/
theorem tidyText_of_mem_none :
    ∀ text ∈ (none : Option String), TidyText text := by
  simp

/- A line that is trimmed is so behind the star. -/
theorem tidy_commentLine
    {line : List Char}
    (hLine : '\n' ∉ line)
    (hTrimmed : trimEnd line = line) :
    Tidy (commentLine line).toList := by
  unfold commentLine
  cases hLast : line.getLast? with
  | none =>
      rw [List.getLast?_eq_none_iff] at hLast
      subst hLast
      decide
  | some c =>
      have hSome : line.isEmpty = false := by
        cases line with
        | nil => cases hLast
        | cons first rest => rfl
      have hCloses : Closes line :=
        closes_of_getLast? hLine hLast
          (trimEnd_eq_self_iff.mp hTrimmed c hLast)
      have hStar : Flows " * ".toList := by
        decide
      have hEnd : Tidy "\n".toList := by
        decide
      rw [hSome, if_neg Bool.false_ne_true,
        String.toList_append, String.toList_append,
        @String.toList_ofList line]
      exact ((hStar.closes hCloses).append hEnd).tidy

/- The inner lines of a comment are tidy. -/
theorem tidy_commentLines
    {text : String}
    (hText : TidyText text) :
    Tidy ((commentLines text).flatMap String.toList) := by
  unfold commentLines
  rw [List.flatMap_map]
  exact Tidy.flatMap fun line hLine =>
    tidy_commentLine (newline_not_mem_of_mem_lines hLine)
      (hText line hLine)

/- So is the comment of a declaration. -/
theorem tidyParts_javadocLayout
    {javadoc : Option String}
    (hJavadoc : ∀ text ∈ javadoc, TidyText text) :
    TidyParts (javadocLayout javadoc) := by
  cases javadoc with
  | none => exact tidyParts_nil
  | some text =>
      have hInner :
          outline ((commentLines text).map Part.text) =
            (commentLines text).flatMap String.toList := by
        induction commentLines text with
        | nil => rfl
        | cons first rest ih => simp [ih]
      have hLines :
          TidyParts ((commentLines text).map Part.text) := by
        rw [TidyParts, hInner]
        exact tidy_commentLines (hJavadoc text rfl)
      exact (TidyParts.append (a := [.text "/**\n"]) rfl
        hLines).append rfl

/- And the comment of a file, with an empty line below it. -/
theorem SourceFile.tidy_commentText
    {f : SourceFile}
    (hComment : ∀ text ∈ f.comment, TidyText text) :
    Tidy f.commentText.toList := by
  unfold commentText
  cases hText : f.comment with
  | none => decide
  | some comment =>
      have hOpening : Tidy "/*\n".toList := by
        decide
      have hClosing : Tidy " */\n\n".toList := by
        decide
      rw [String.toList_append, String.toList_append,
        String.toList_join]
      exact (hOpening.append (tidy_commentLines
        (hComment comment hText))).append hClosing

------------------------------------------------------------
-- Annotations
------------------------------------------------------------

/- A mark is a word on a line. -/
theorem tidyParts_annotationsLayout
    {annotations : List Annotation}
    (hMarks : ∀ a ∈ annotations, a.value = none) :
    TidyParts (annotationsLayout annotations) := by
  apply TidyParts.flatMap
  intro a hA
  unfold Annotation.layout
  rw [hMarks a hA]
  rfl

/- The marker of generated code has a value, on its line. -/
theorem tidyParts_generatedMarker
    (value : String) :
    TidyParts (annotationsLayout [generatedMarker value]) := by
  let mark : List Part :=
    ["@", markerClass, "(", quotedText value]
  have hMark : InLine mark := by
    simp [mark]
  have hLine :
      annotationsLayout [generatedMarker value] =
        mark ++ [.text ")", .text "\n"] :=
    layout_generatedMarker value
  have hEnd : Closes (outline [.text ")", .text "\n"]) :=
    rfl
  rw [hLine, TidyParts, Code.outline_append]
  exact (hMark.flows.closes hEnd).tidy

------------------------------------------------------------
-- Heads of Declarations
------------------------------------------------------------

/- Modifiers are words. -/
theorem inLine_modifiersLayout
    (modifiers : List Modifier) :
    InLine (modifiersLayout modifiers) := by
  have hWord :
      ∀ m : Modifier, '\n' ∉ (m.keyword ++ " ").toList := by
    intro m
    cases m <;> decide
  unfold modifiersLayout
  induction modifiers with
  | nil => exact inLine_nil
  | cons m modifiers ih =>
      exact inLine_text_cons_iff.mpr ⟨hWord m, ih⟩

/- Types may be listed on a line. -/
theorem inLine_typeList
    (types : List TypeName) :
    InLine (typeList types) := by
  apply inLine_separated (by decide)
  simp

/- So may type variables with their bounds. -/
theorem inLine_typeVariableLayout
    {t : TypeName}
    (hType : t.IsLegal) :
    InLine (typeVariableLayout t) := by
  unfold typeVariableLayout
  split
  · rename_i name bound more
    rw [TypeName.isLegal_variable_iff] at hType
    have hName := newline_not_mem_of_isIdentifier hType.1
    have hBounds :
        InLine (separated " & "
          ((bound :: more).map fun t => [.type t])) := by
      apply inLine_separated (by decide)
      simp
    simpa [hName] using hBounds
  · simp

theorem inLine_typeVariablesLayout
    {declared : List TypeName}
    {ending : String}
    (hDeclared : ∀ t ∈ declared, t.IsLegal)
    (hEnding : '\n' ∉ ending.toList) :
    InLine (typeVariablesLayout declared ending) := by
  have hVariables :
      InLine (separated ", "
        (declared.map typeVariableLayout)) := by
    apply inLine_separated (by decide)
    rw [List.forall_mem_map]
    exact fun t hT =>
      inLine_typeVariableLayout (hDeclared t hT)
  unfold typeVariablesLayout
  split
  · exact inLine_nil
  · simp [hVariables, hEnding]

/- Parameters are types and names. -/
theorem Parameter.inLine_layout
    {p : Parameter}
    (hName : isIdentifier p.name = true)
    (isVariadic : Bool) :
    InLine (p.layout isVariadic) := by
  have hWord := newline_not_mem_of_isIdentifier hName
  unfold layout
  rw [inLine_append_iff, inLine_append_iff]
  refine ⟨⟨?_, ?_⟩, by simp [hWord]⟩
  · cases p.isFinal <;> simp
  · split <;> simp

theorem inLine_parametersLayout
    {parameters : List Parameter}
    (isVariadic : Bool)
    (hNames : ∀ p ∈ parameters, isIdentifier p.name = true) :
    ∀ group ∈ parametersLayout isVariadic parameters,
      InLine group := by
  fun_induction parametersLayout isVariadic parameters with
  | case1 => simp
  | case2 last =>
      rw [List.forall_mem_singleton] at hNames ⊢
      exact last.inLine_layout hNames isVariadic
  | case3 p next more ih =>
      rw [List.forall_mem_cons] at hNames
      exact List.forall_mem_cons.mpr
        ⟨p.inLine_layout hNames.1 false, ih hNames.2⟩

/- What comes in front of the parameters. -/
theorem Method.inLine_nameLayout
    {m : Method}
    {enclosing : String}
    (hOwn : ∀ name ∈ m.ownNames, isIdentifier name = true)
    (hEnclosing : isIdentifier enclosing = true) :
    InLine (m.nameLayout enclosing) := by
  unfold nameLayout
  unfold ownNames at hOwn
  cases hKind : m.kind with
  | constructor =>
      simpa using newline_not_mem_of_isIdentifier hEnclosing
  | method name =>
      rw [hKind, List.forall_mem_singleton] at hOwn
      simpa using newline_not_mem_of_isIdentifier hOwn

/- What comes behind them. -/
theorem inLine_throwsLayout
    (throws : List TypeName) :
    InLine (throwsLayout throws) := by
  unfold throwsLayout
  split
  · exact inLine_nil
  · simp [inLine_typeList]

/- What comes in front of the members of a type. -/
theorem inLine_superclassLayout
    (superclass : Option TypeName) :
    InLine (superclassLayout superclass) := by
  cases superclass <;> simp [superclassLayout]

theorem inLine_superinterfacesLayout
    (kind : TypeKind)
    (superinterfaces : List TypeName) :
    InLine (superinterfacesLayout kind superinterfaces) := by
  have hWord : '\n' ∉ kind.interfacesKeyword.toList := by
    cases kind <;> decide
  unfold superinterfacesLayout
  split
  · exact inLine_nil
  · simp [inLine_typeList, hWord]

------------------------------------------------------------
-- Members
------------------------------------------------------------

/- A field without a value is on a line of its own. -/
theorem Field.tidyParts_layout
    {f : Field}
    (hName : isIdentifier f.name = true)
    (hJavadoc : ∀ text ∈ f.javadoc, TidyText text)
    (hInitializer : f.initializer = none) :
    TidyParts f.layout := by
  have hWord := newline_not_mem_of_isIdentifier hName
  have hLine :
      InLine (modifiersLayout f.modifiers ++
        [.type f.type, .text " ", .text f.name]) := by
    simp [inLine_modifiersLayout, hWord]
  have hLayout :
      f.layout =
        javadocLayout f.javadoc ++
          statement (modifiersLayout f.modifiers ++
            [.type f.type, .text " ", .text f.name]) := by
    simp [layout, hInitializer, statement]
  rw [hLayout]
  exact (tidyParts_javadocLayout hJavadoc).append
    (tidyParts_statement hLine)

/- The comment of a method and its body are tidy. -/
@[mk_iff]
structure Method.IsTidy (m : Method) : Prop where
  javadoc : ∀ text ∈ m.javadoc, TidyText text
  body : TidyParts m.body.parts

/- So is the method then, with its marks. -/
theorem Method.tidyParts_layout
    {m : Method}
    {enclosing : String}
    (hTidy : m.IsTidy)
    (hLegal : m.IsLegal)
    (hMarks : ∀ a ∈ m.annotations, a.value = none)
    (hEnclosing : isIdentifier enclosing = true)
    (inInterface : Bool) :
    TidyParts (m.layout enclosing inInterface) := by
  rcases Method.isLegal_iff.mp hLegal with
    ⟨hOwn, -, hVariables, -, hParameters, -, -⟩
  let head : List Part :=
    modifiersLayout m.modifiers ++
      typeVariablesLayout m.typeVariables "> " ++
      m.nameLayout enclosing ++ [.text "("] ++
      separated ", "
        (parametersLayout m.isVariadic m.parameters) ++
      [.text ")"] ++ throwsLayout m.throws
  have hHead : InLine head := by
    have hList :
        InLine (separated ", "
          (parametersLayout m.isVariadic m.parameters)) :=
      inLine_separated (by decide)
        (inLine_parametersLayout m.isVariadic fun p hP =>
          (Parameter.isLegal_iff.mp (hParameters p hP)).1)
    simp [head, inLine_modifiersLayout,
      inLine_typeVariablesLayout hVariables,
      Method.inLine_nameLayout hOwn hEnclosing, hList,
      inLine_throwsLayout]
  have hLayout :
      m.layout enclosing inInterface =
        javadocLayout m.javadoc ++
          annotationsLayout m.annotations ++
          (head ++ m.bodyLayout inInterface) := by
    simp [layout, head]
  have hBody :
      TidyParts (head ++ m.bodyLayout inInterface) := by
    unfold bodyLayout
    split
    · have hBlock := TidyParts.block hHead hTidy.body
      simpa [block] using hBlock
    · exact tidyParts_statement hHead
  rw [hLayout]
  exact ((tidyParts_javadocLayout hTidy.javadoc).append
    (tidyParts_annotationsLayout hMarks)).append hBody

------------------------------------------------------------
-- Types
------------------------------------------------------------

/- All comments and bodies in a type are tidy. -/
structure TypeDecl.IsTidy (d : TypeDecl) : Prop where
  javadoc : ∀ text ∈ d.javadoc, TidyText text
  fields :
    ∀ f ∈ d.fields, ∀ text ∈ f.javadoc, TidyText text
  methods : ∀ m ∈ d.methods, m.IsTidy

namespace TypeDecl

variable {d : TypeDecl}
variable {annotations : List Annotation}

/- Tidy members are whole lines. -/
theorem IsTidy.tidyParts_members
    (hTidy : d.IsTidy)
    (hForm : d.IsRegular)
    (hSafe : d.LexicallySafe) :
    ∀ member ∈ d.members, TidyParts member := by
  rcases lexicallySafe_iff.mp hSafe with ⟨hName, hPieces⟩
  unfold members
  rw [List.forall_mem_append, List.forall_mem_map,
    List.forall_mem_map]
  refine ⟨fun f hF => ?_, fun m hM => ?_⟩
  · exact Field.tidyParts_layout
      (Field.isLegal_iff.mp (hPieces.fields f hF)).1
      (hTidy.fields f hF) (hForm.fields f hF).2
  · exact Method.tidyParts_layout (hTidy.methods m hM)
      (hPieces.methods m hM)
      (hForm.methods m hM).annotations hName _

/- The type is tidy if its annotations are. -/
theorem IsTidy.tidyParts_layout
    (hTidy : d.IsTidy)
    (hForm : d.IsRegular)
    (hSafe : d.LexicallySafe)
    (hAnnotations :
      TidyParts (annotationsLayout annotations)) :
    TidyParts (layout { d with annotations }) := by
  rcases lexicallySafe_iff.mp hSafe with ⟨hName, hPieces⟩
  let head : List Part :=
    modifiersLayout d.modifiers ++
      [.text (d.kind.keyword ++ " "), .text d.name] ++
      typeVariablesLayout d.typeVariables ">" ++
      superclassLayout d.superclass ++
      superinterfacesLayout d.kind d.superinterfaces
  have hHead : InLine head := by
    have hWord := newline_not_mem_of_isIdentifier hName
    have hKind : '\n' ∉ d.kind.keyword.toList := by
      cases d.kind <;> decide
    simp [head, inLine_modifiersLayout, hWord, hKind,
      inLine_typeVariablesLayout hPieces.typeVariables,
      inLine_superclassLayout, inLine_superinterfacesLayout]
  have hLayout :
      layout { d with annotations } =
        javadocLayout d.javadoc ++
          annotationsLayout annotations ++
          block head (separated "\n" d.members) := by
    simp [layout, head, block, members]
  rw [hLayout]
  exact ((tidyParts_javadocLayout hTidy.javadoc).append
    hAnnotations).append
      (TidyParts.block hHead
        (TidyParts.separated
          (hTidy.tidyParts_members hForm hSafe)))

end TypeDecl

------------------------------------------------------------
-- Legal Layouts
------------------------------------------------------------

/- Annotations refer to what is legal if they are. -/
theorem forall_mem_annotationsLayout_isLegal
    {annotations : List Annotation}
    (hAnnotations : ∀ a ∈ annotations, a.IsLegal) :
    ∀ p ∈ annotationsLayout annotations, p.IsLegal := by
  apply forall_mem_annotationsLayout Part.isLegal_text
  · intro a hA
    have hBoth := Annotation.isLegal_iff.mp (hAnnotations a hA)
    simpa using hBoth.1
  · intro a hA code hCode
    have hBoth := Annotation.isLegal_iff.mp (hAnnotations a hA)
    exact Code.isLegal_iff.mp (hBoth.2 code hCode)

/- So do type variables. -/
theorem forall_mem_typeVariableLayout_isLegal
    {t : TypeName}
    (hType : t.IsLegal) :
    ∀ p ∈ typeVariableLayout t, p.IsLegal := by
  unfold typeVariableLayout
  split
  · rename_i name bound more
    rw [TypeName.isLegal_variable_iff] at hType
    rw [List.forall_mem_append]
    refine ⟨by simp, ?_⟩
    apply forall_mem_separated Part.isLegal_text
    simpa using hType.2
  · simpa using hType

/- So do fields and methods. -/
theorem Field.forall_mem_layout_isLegal
    {f : Field}
    (hField : f.IsLegal) :
    ∀ p ∈ f.layout, p.IsLegal := by
  rcases Field.isLegal_iff.mp hField with
    ⟨-, hType, hInitializer⟩
  have hValue :
      ∀ p ∈ f.initializer.elim [] fun value =>
          [.text " = "] ++ value.parts,
        p.IsLegal := by
    cases hCode : f.initializer with
    | none => simp
    | some code =>
        have hParts :=
          Code.isLegal_iff.mp (hInitializer code hCode)
        simpa using hParts
  unfold Field.layout
  simp only [List.forall_mem_append]
  exact ⟨⟨⟨⟨forall_mem_javadocLayout Part.isLegal_text _,
    forall_mem_modifiersLayout Part.isLegal_text _⟩,
    by simpa using hType⟩, hValue⟩, by simp⟩

theorem Method.forall_mem_layout_isLegal
    {m : Method}
    (hMethod : m.IsLegal)
    (enclosing : String)
    (inInterface : Bool) :
    ∀ p ∈ m.layout enclosing inInterface, p.IsLegal := by
  rcases Method.isLegal_iff.mp hMethod with
    ⟨-, hAnnotations, hVariables, hReturns, hParameters,
      hThrows, hBody⟩
  have hHead : ∀ p ∈ m.headLayout enclosing, p.IsLegal :=
    m.forall_mem_headLayout Part.isLegal_text
      (fun t hArray => TypeName.isLegal_array_iff.mp hArray)
      enclosing
      (forall_mem_annotationsLayout_isLegal hAnnotations)
      (fun t hT =>
        forall_mem_typeVariableLayout_isLegal
          (hVariables t hT))
      hReturns
      (fun p hP => (Parameter.isLegal_iff.mp
        (hParameters p hP)).2)
      hThrows
  rw [Code.isLegal_iff] at hBody
  rw [Method.layout_eq_head, List.forall_mem_append]
  refine ⟨hHead, ?_⟩
  unfold Method.bodyLayout
  split
  · simp only [List.forall_mem_append]
    exact ⟨⟨by simp, hBody⟩, by simp⟩
  · simp

/- All types that a safe declaration writes are legal. -/
theorem TypeDecl.LexicallySafe.forall_mem_layout
    {d : TypeDecl}
    (hSafe : d.LexicallySafe) :
    ∀ p ∈ d.layout, p.IsLegal := by
  rcases lexicallySafe_iff.mp hSafe with ⟨-, hPieces⟩
  have hHead : ∀ p ∈ d.headLayout, p.IsLegal :=
    d.forall_mem_headLayout Part.isLegal_text
      (forall_mem_annotationsLayout_isLegal
        hPieces.annotations)
      (fun t hT =>
        forall_mem_typeVariableLayout_isLegal
          (hPieces.typeVariables t hT))
      hPieces.superclass hPieces.superinterfaces
  have hMembers :
      ∀ member ∈ d.members, ∀ p ∈ member, p.IsLegal := by
    unfold members
    rw [List.forall_mem_append, List.forall_mem_map,
      List.forall_mem_map]
    exact ⟨fun f hF =>
        f.forall_mem_layout_isLegal (hPieces.fields f hF),
      fun m hM =>
        m.forall_mem_layout_isLegal (hPieces.methods m hM)
          _ _⟩
  rw [layout_eq_head]
  simp only [List.forall_mem_append]
  exact ⟨⟨⟨hHead, by simp⟩,
    forall_mem_separated Part.isLegal_text hMembers⟩,
    by simp⟩

------------------------------------------------------------
-- Files
------------------------------------------------------------

namespace SourceFile

variable {f : SourceFile}

/- The imports of a file are lines and an empty one. -/
theorem tidy_importLines
    {names : List String}
    (hNames : ∀ name ∈ names, '\n' ∉ name.toList) :
    Tidy (importLines names).toList := by
  have hLine :
      ∀ name ∈ names,
        Tidy ("import " ++ name ++ ";\n").toList := by
    intro name hName
    have hFlows : Flows ("import " ++ name).toList := by
      apply flows_of_newline_not_mem
      simpa using hNames name hName
    have hEnd : Closes ";\n".toList := by
      decide
    rw [String.toList_append]
    exact (hFlows.closes hEnd).tidy
  unfold importLines
  split
  · decide
  · have hGap : Tidy "\n".toList := by
      decide
    rw [String.toList_append, String.toList_join,
      List.flatMap_map]
    exact (Tidy.flatMap hLine).append hGap

/- The marker of generated code is legal. -/
theorem lexicallySafe_declaration
    (hSafe : f.type.LexicallySafe) :
    f.declaration.LexicallySafe := by
  rcases TypeDecl.lexicallySafe_iff.mp hSafe with
    ⟨hName, hPieces⟩
  unfold declaration
  cases f.marker with
  | none => exact hSafe
  | some value =>
      have hMarker : (generatedMarker value).IsLegal := by
        have hClass :
            ClassName.IsLegal
              (.inPackage "javax.annotation" "Generated") :=
          .of_isTypeName (by decide) (by decide)
        simp [generatedMarker, Annotation.isLegal_iff, hClass]
      refine TypeDecl.lexicallySafe_of_pieces hName
        { hPieces with annotations := ?_ }
      exact List.forall_mem_cons.mpr
        ⟨hMarker, hPieces.annotations⟩

/- Imported classes have legal names. -/
theorem newline_not_mem_of_mem_imports
    (hPackage : isQualifiedName f.package = true)
    (hSafe : f.type.LexicallySafe) :
    ∀ name ∈ f.scope.imports, '\n' ∉ name.toList := by
  have hDeclared : f.className.IsLegal :=
    ClassName.isLegal_inPackage hPackage
      (TypeDecl.lexicallySafe_iff.mp hSafe).1
  have hTop : ∀ c ∈ f.scope.topLevels, c.IsLegal := by
    intro c hC
    unfold scope at hC
    rw [Scope.mem_topLevels_ofMentions] at hC
    rcases hC with rfl | ⟨m, hM, rfl⟩
    · exact hDeclared.outermost
    · exact ((lexicallySafe_declaration hSafe).classes m
        hM).outermost
  intro name hName
  rcases (f.scope.imports_spec.2 name).mp hName with
    ⟨c, hOnly, -, rfl⟩
  exact (hTop c hOnly.1).not_mem_canonical (by decide)
    (by decide)

/- The line of the package comes with an empty one too. -/
theorem tidy_packageText
    (hPackage : isQualifiedName f.package = true) :
    Tidy f.packageText.toList := by
  have hName : '\n' ∉ f.package.toList :=
    ClassName.not_mem_of_isQualifiedName hPackage (by decide)
      (by decide)
  have hFlows : Flows ("package " ++ f.package).toList := by
    apply flows_of_newline_not_mem
    simpa using hName
  have hEnd : Closes ";\n\n".toList := by
    decide
  unfold packageText
  split
  · decide
  · rw [String.toList_append]
    exact (hFlows.closes hEnd).tidy

/- The marker stays on its line, above the other marks. -/
theorem exists_tidy_annotations
    (hMarks : ∀ a ∈ f.type.annotations, a.value = none) :
    ∃ annotations,
      f.declaration = { f.type with annotations } ∧
        TidyParts (annotationsLayout annotations) := by
  have hOwn := tidyParts_annotationsLayout hMarks
  unfold declaration
  cases f.marker with
  | none => exact ⟨f.type.annotations, rfl, hOwn⟩
  | some value =>
      refine ⟨_, rfl, ?_⟩
      have hAll :=
        (tidyParts_generatedMarker value).append hOwn
      simpa [annotationsLayout] using hAll

/-
  A file is tidy if its comment and its type are and all the
  names in it are legal.
-/
theorem tidy_render
    (hComment : ∀ text ∈ f.comment, TidyText text)
    (hPackage : isQualifiedName f.package = true)
    (hTidy : f.type.IsTidy)
    (hForm : f.type.IsRegular)
    (hSafe : f.type.LexicallySafe) :
    Tidy f.render.toList := by
  rcases exists_tidy_annotations hForm.annotations with
    ⟨annotations, hDeclaration, hAnnotations⟩
  have hLayout : TidyParts f.declaration.layout := by
    rw [hDeclaration]
    exact hTidy.tidyParts_layout hForm hSafe hAnnotations
  have hType :
      Tidy (renderParts f.scope.spell
        f.declaration.layout).toList :=
    tidy_renderParts f.scope.spellsWords hLayout
      (lexicallySafe_declaration hSafe).forall_mem_layout
  have hImports : Tidy f.importsText.toList :=
    tidy_importLines
      (newline_not_mem_of_mem_imports hPackage hSafe)
  unfold render
  rw [String.toList_append, String.toList_append,
    String.toList_append]
  exact (((tidy_commentText hComment).append
    (tidy_packageText hPackage)).append hImports).append hType

end SourceFile

end ClientGen.Java
