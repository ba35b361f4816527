import ClientGen.Proofs.Java.Indentation
import ClientGen.Proofs.Java.WrittenClasses

/-
  Members in the form that all generated ones have.

  Main declarations include:
    * `RegularParts`
    * `Method.IsRegular`
    * `TypeDecl.IsRegular`
    * `TypeDecl.IsRegular.indented`
    * `TypeDecl.IsRegular.hidesNothing`

  A regular body comes back to the level it begins at, and
  its types have no bounds.  Both are kept by every way to
  put code together, so they are shown together.
-/

namespace ClientGen.Java

open Code (Part)

------------------------------------------------------------
-- Regular Code
------------------------------------------------------------

/-
  Code that comes back to its level, in which no type
  variable has bounds.
-/
structure RegularParts (parts : List Part) : Prop where
  balanced : Balanced parts
  unbounded : ∀ p ∈ parts, p.IsUnbounded

@[simp]
theorem regularParts_nil :
    RegularParts [] :=
  ⟨balanced_nil, by simp⟩

/- Texts are regular, and so are types without bounds. -/
@[simp]
theorem regularParts_text_cons_iff
    {s : String}
    {rest : List Part} :
    RegularParts (.text s :: rest) ↔ RegularParts rest := by
  constructor
  · rintro ⟨hBalanced, hUnbounded⟩
    rw [List.forall_mem_cons] at hUnbounded
    exact ⟨balanced_text_cons_iff.mp hBalanced, hUnbounded.2⟩
  · rintro ⟨hBalanced, hUnbounded⟩
    exact ⟨balanced_text_cons_iff.mpr hBalanced,
      List.forall_mem_cons.mpr ⟨trivial, hUnbounded⟩⟩

@[simp]
theorem regularParts_quotedText_cons_iff
    {value : String}
    {rest : List Part} :
    RegularParts (quotedText value :: rest) ↔
      RegularParts rest :=
  regularParts_text_cons_iff

@[simp]
theorem regularParts_type_cons_iff
    {t : TypeName}
    {rest : List Part} :
    RegularParts (.type t :: rest) ↔
      t.isUnbounded = true ∧ RegularParts rest := by
  constructor
  · rintro ⟨hBalanced, hUnbounded⟩
    rw [List.forall_mem_cons] at hUnbounded
    exact ⟨hUnbounded.1,
      balanced_type_cons_iff.mp hBalanced, hUnbounded.2⟩
  · rintro ⟨hType, hBalanced, hUnbounded⟩
    exact ⟨balanced_type_cons_iff.mpr hBalanced,
      List.forall_mem_cons.mpr ⟨hType, hUnbounded⟩⟩

namespace RegularParts

/- Regular code may follow regular code. -/
@[simp]
theorem append
    {a b : List Part}
    (hA : RegularParts a)
    (hB : RegularParts b) :
    RegularParts (a ++ b) :=
  ⟨hA.balanced.append hB.balanced,
    List.forall_mem_append.mpr ⟨hA.unbounded, hB.unbounded⟩⟩

/- So may any number of pieces. -/
theorem flatMap
    {α : Type}
    {items : List α}
    {parts : α → List Part}
    (hItems : ∀ item ∈ items, RegularParts (parts item)) :
    RegularParts (items.flatMap parts) :=
  ⟨balanced_flatMap fun item hItem =>
      (hItems item hItem).balanced,
    List.forall_mem_flatMap.mpr fun item hItem =>
      (hItems item hItem).unbounded⟩

/- Regular code may stand one level deeper. -/
theorem nested
    {parts : List Part}
    (hParts : RegularParts parts) :
    RegularParts ([.indent] ++ parts ++ [.unindent]) := by
  refine ⟨hParts.balanced.nested, ?_⟩
  simpa [or_imp, forall_and, Part.IsUnbounded]
    using hParts.unbounded

/- Blocks and continued lines are regular if their pieces are. -/
@[simp]
theorem block
    {head body : List Part}
    (hHead : RegularParts head)
    (hBody : RegularParts body) :
    RegularParts (Java.block head body) := by
  refine ⟨balanced_block hHead.balanced hBody.balanced, ?_⟩
  simpa [Java.block, or_imp, forall_and, Part.IsUnbounded]
    using ⟨hHead.unbounded, hBody.unbounded⟩

@[simp]
theorem followed
    {head body nextHead nextBody : List Part}
    (hHead : RegularParts head)
    (hBody : RegularParts body)
    (hNextHead : RegularParts nextHead)
    (hNextBody : RegularParts nextBody) :
    RegularParts
      (Java.followed head body nextHead nextBody) := by
  refine ⟨balanced_followed hHead.balanced hBody.balanced
    hNextHead.balanced hNextBody.balanced, ?_⟩
  simpa [Java.followed, or_imp, forall_and, Part.IsUnbounded]
    using ⟨hHead.unbounded, hBody.unbounded,
      hNextHead.unbounded, hNextBody.unbounded⟩

@[simp]
theorem continued
    {head lines : List Part}
    (hHead : RegularParts head)
    (hLines : RegularParts lines) :
    RegularParts (Java.continued head lines) := by
  refine ⟨balanced_continued hHead.balanced
    hLines.balanced, ?_⟩
  simpa [Java.continued, or_imp, forall_and,
      Part.IsUnbounded]
    using ⟨hHead.unbounded, hLines.unbounded⟩

end RegularParts

/- A statement is regular if what it says is. -/
@[simp]
theorem regularParts_statement_iff
    {parts : List Part} :
    RegularParts (statement parts) ↔ RegularParts parts := by
  have hUnbounded :
      (∀ p ∈ statement parts, p.IsUnbounded) ↔
        ∀ p ∈ parts, p.IsUnbounded := by
    simp [statement, or_imp, forall_and, Part.IsUnbounded]
  constructor
  · rintro ⟨hBalanced, hAll⟩
    exact ⟨balanced_statement_iff.mp hBalanced,
      hUnbounded.mp hAll⟩
  · rintro ⟨hBalanced, hAll⟩
    exact ⟨balanced_statement_iff.mpr hBalanced,
      hUnbounded.mpr hAll⟩

/- The normal form is regular if the parts are. -/
@[simp]
theorem regularParts_ofParts_iff
    {parts : List Part} :
    RegularParts (Code.ofParts parts).parts ↔
      RegularParts parts := by
  have hUnbounded :
      (∀ p ∈ (Code.ofParts parts).parts, p.IsUnbounded) ↔
        ∀ p ∈ parts, p.IsUnbounded :=
    forall_mem_ofParts_iff fun _ => trivial
  constructor
  · rintro ⟨hBalanced, hAll⟩
    exact ⟨balanced_ofParts_iff.mp hBalanced,
      hUnbounded.mp hAll⟩
  · rintro ⟨hBalanced, hAll⟩
    exact ⟨balanced_ofParts_iff.mpr hBalanced,
      hUnbounded.mpr hAll⟩

/- Fragments joined by a text are regular if each of them is. -/
theorem regularParts_join
    {separator : String}
    {blocks : List Code}
    (hBlocks : ∀ code ∈ blocks, RegularParts code.parts) :
    RegularParts (Code.join blocks separator).parts := by
  rw [Code.join, regularParts_ofParts_iff]
  fun_induction Code.joinedParts separator blocks with
  | case1 => exact regularParts_nil
  | case2 only => simpa using hBlocks
  | case3 first next more ih =>
      rw [List.forall_mem_cons] at hBlocks
      exact hBlocks.1.append
        (regularParts_text_cons_iff.mpr (ih hBlocks.2))

------------------------------------------------------------
-- Regular Members
------------------------------------------------------------

/-
  A method whose annotations are marks only, whose body is
  regular, and which leaves out nothing that it mentions.
-/
@[mk_iff]
structure Method.IsRegular
    (m : Method)
    (inInterface : Bool) :
    Prop where
  annotations : ∀ a ∈ m.annotations, a.value = none
  typeVariables :
    ∀ t ∈ m.typeVariables, t.isDeclarable = true
  returns : m.returns.isUnbounded = true
  parameters : ∀ p ∈ m.parameters, p.type.isUnbounded = true
  throws : ∀ t ∈ m.throws, t.isUnbounded = true
  body : RegularParts m.body.parts
  bodyless :
    m.hasBody inInterface = true ∨ m.body = Code.empty
  constructor : m.isConstructor = true → m.returns = .void

/- Marks, parameters and fields as they mostly are. -/
@[simp]
theorem Annotation.value_marker
    (type : ClassName) :
    (.marker type : Annotation).value = none :=
  rfl

@[simp]
theorem Parameter.type_plain
    (type : TypeName)
    (name : String) :
    (Parameter.plain type name).type = type :=
  rfl

@[simp]
theorem Field.type_plain
    (type : TypeName)
    (name : String)
    (modifiers : List Modifier) :
    (Field.plain type name modifiers).type = type :=
  rfl

@[simp]
theorem Field.initializer_plain
    (type : TypeName)
    (name : String)
    (modifiers : List Modifier) :
    (Field.plain type name modifiers).initializer = none :=
  rfl

/- A mark of that kind has no code in it. -/
theorem forall_mem_value_of_eq_none
    {P : Part → Prop}
    {annotations : List Annotation}
    (hMarks : ∀ a ∈ annotations, a.value = none) :
    ∀ a ∈ annotations, ∀ code ∈ a.value,
      ∀ p ∈ code.parts, P p := by
  intro a hA code hCode
  rw [hMarks a hA] at hCode
  cases hCode

theorem Method.IsRegular.indented
    {m : Method}
    {inInterface : Bool}
    (hMethod : m.IsRegular inInterface) :
    m.Indented where
  annotations := forall_mem_value_of_eq_none hMethod.annotations
  body := hMethod.body.balanced

theorem Method.IsRegular.hidesNothing
    {m : Method}
    {inInterface : Bool}
    (hMethod : m.IsRegular inInterface) :
    m.HidesNothing inInterface where
  annotations := forall_mem_value_of_eq_none hMethod.annotations
  typeVariables := hMethod.typeVariables
  returns := hMethod.returns
  parameters := hMethod.parameters
  throws := hMethod.throws
  body := hMethod.body.unbounded
  bodyless := by
    intro hNone
    rcases hMethod.bodyless with hHas | hEmpty
    · rw [hHas] at hNone
      cases hNone
    · exact hEmpty
  constructor := hMethod.constructor

------------------------------------------------------------
-- Regular Types
------------------------------------------------------------

/- A type of regular members, marked like these. -/
structure TypeDecl.IsRegular (d : TypeDecl) : Prop where
  annotations : ∀ a ∈ d.annotations, a.value = none
  typeVariables :
    ∀ t ∈ d.typeVariables, t.isDeclarable = true
  superclass : ∀ t ∈ d.superclass, t.isUnbounded = true
  superinterfaces :
    ∀ t ∈ d.superinterfaces, t.isUnbounded = true
  fields :
    ∀ f ∈ d.fields,
      f.type.isUnbounded = true ∧ f.initializer = none
  methods :
    ∀ m ∈ d.methods, m.IsRegular (d.kind == .interfaceType)

namespace TypeDecl.IsRegular

variable {d : TypeDecl}
variable {annotations : List Annotation}

/- It stays in form with other annotations. -/
theorem indented
    (hType : d.IsRegular)
    (hAnnotations : LevelAnnotations annotations) :
    Indented { d with annotations } where
  annotations := hAnnotations
  initializers := by
    intro f hF code hCode
    rw [(hType.fields f hF).2] at hCode
    cases hCode
  methods := fun m hM => (hType.methods m hM).indented

theorem hidesNothing
    (hType : d.IsRegular)
    (hAnnotations : UnboundedAnnotations annotations) :
    HidesNothing { d with annotations } where
  annotations := hAnnotations
  typeVariables := hType.typeVariables
  superclass := hType.superclass
  superinterfaces := hType.superinterfaces
  fields := by
    intro f hF
    rcases hType.fields f hF with ⟨hUnbounded, hNone⟩
    refine ⟨hUnbounded, ?_⟩
    intro code hCode
    rw [hNone] at hCode
    cases hCode
  methods := fun m hM => (hType.methods m hM).hidesNothing

end TypeDecl.IsRegular

namespace SourceFile

/- The mark of generated code holds a text. -/
theorem exists_declaration_eq
    {P : Part → Prop}
    (f : SourceFile)
    (hText : ∀ s, P (.text s))
    (hMarks : ∀ a ∈ f.type.annotations, a.value = none) :
    ∃ annotations,
      f.declaration = { f.type with annotations } ∧
        ∀ a ∈ annotations, ∀ code ∈ a.value,
          ∀ p ∈ code.parts, P p := by
  have hOwn :
      ∀ a ∈ f.type.annotations, ∀ code ∈ a.value,
        ∀ p ∈ code.parts, P p :=
    forall_mem_value_of_eq_none hMarks
  unfold declaration
  cases f.marker with
  | none => exact ⟨f.type.annotations, rfl, hOwn⟩
  | some value =>
      refine ⟨_, rfl, List.forall_mem_cons.mpr ⟨?_, hOwn⟩⟩
      rintro code ⟨⟩
      rw [forall_mem_ofParts_iff hText]
      simp [hText]

variable {f : SourceFile}

/- Files of regular types are indented as they should be. -/
theorem indented_declaration
    (hType : f.type.IsRegular) :
    f.declaration.Indented := by
  rcases f.exists_declaration_eq Part.isLevel_text
      hType.annotations with
    ⟨annotations, hDeclaration, hLevel⟩
  rw [hDeclaration]
  exact hType.indented hLevel

/- And they write all classes that they mention. -/
theorem hidesNothing_declaration
    (hType : f.type.IsRegular) :
    f.declaration.HidesNothing := by
  have hText : ∀ s, (Part.text s).IsUnbounded :=
    fun _ => trivial
  rcases f.exists_declaration_eq hText
      hType.annotations with
    ⟨annotations, hDeclaration, hUnbounded⟩
  rw [hDeclaration]
  exact hType.hidesNothing hUnbounded

end SourceFile

end ClientGen.Java
