import ClientGen.Java.Layout

/-
  The parts of a layout.

  Main declarations include:
    * `forall_mem_ofParts_iff`
    * `Method.headLayout`
    * `Method.forall_mem_headLayout`
    * `TypeDecl.headLayout`
    * `TypeDecl.forall_mem_headLayout`
    * `separated_append_cons`
    * `TypeDecl.layout_eq_split`

  Apart from bodies and initializers a layout consists of
  texts and of the types of the declaration.  So what holds
  of every text need only be shown of the types.
-/

namespace ClientGen.Java

open ClientGen.Text

------------------------------------------------------------
-- Normal Forms
------------------------------------------------------------

variable {P : Code.Part → Prop}

/- A text that is merged with another is one text still. -/
theorem forall_mem_before_iff
    (hText : ∀ s, P (.text s))
    {part : Code.Part}
    {rest : List Code.Part} :
    (∀ p ∈ part.before rest, P p) ↔
      P part ∧ ∀ p ∈ rest, P p := by
  unfold Code.Part.before
  split
  · split
    · simp [hText]
    · simp [hText]
  · split
    · simp [hText]
    · simp [hText]
  · exact List.forall_mem_cons

/- The normal form has the same parts besides its texts. -/
theorem forall_mem_ofParts_iff
    (hText : ∀ s, P (.text s))
    {parts : List Code.Part} :
    (∀ p ∈ (Code.ofParts parts).parts, P p) ↔
      ∀ p ∈ parts, P p := by
  unfold Code.ofParts
  induction parts with
  | nil => simp
  | cons part parts ih =>
      rw [List.foldr_cons, forall_mem_before_iff hText, ih,
        List.forall_mem_cons]

/- So have fragments that are joined. -/
theorem forall_mem_join
    (hText : ∀ s, P (.text s))
    {separator : String}
    {blocks : List Code}
    (hBlocks : ∀ code ∈ blocks, ∀ p ∈ code.parts, P p) :
    ∀ p ∈ (Code.join blocks separator).parts, P p := by
  rw [Code.join, forall_mem_ofParts_iff hText]
  induction blocks with
  | nil => simp [Code.joinedParts]
  | cons code blocks ih =>
      rw [List.forall_mem_cons] at hBlocks
      cases blocks with
      | nil => exact hBlocks.1
      | cons next more =>
          exact List.forall_mem_append.mpr ⟨hBlocks.1,
            List.forall_mem_cons.mpr
              ⟨hText _, ih hBlocks.2⟩⟩

------------------------------------------------------------
-- Pieces of Layouts
------------------------------------------------------------

/- The parts between groups are texts. -/
theorem forall_mem_separated
    (hText : ∀ s, P (.text s))
    {separator : String}
    {groups : List (List Code.Part)}
    (hGroups : ∀ group ∈ groups, ∀ p ∈ group, P p) :
    ∀ p ∈ separated separator groups, P p := by
  induction groups with
  | nil => simp [separated]
  | cons group groups ih =>
      rw [List.forall_mem_cons] at hGroups
      cases groups with
      | nil => exact hGroups.1
      | cons next more =>
          exact List.forall_mem_append.mpr ⟨hGroups.1,
            List.forall_mem_cons.mpr
              ⟨hText _, ih hGroups.2⟩⟩

/- A comment is text. -/
theorem forall_mem_javadocLayout
    (hText : ∀ s, P (.text s))
    (javadoc : Option String) :
    ∀ p ∈ javadocLayout javadoc, P p := by
  cases javadoc with
  | none => simp [javadocLayout]
  | some text =>
      simp [javadocLayout, hText, or_imp, forall_and]

/- So are modifiers. -/
theorem forall_mem_modifiersLayout
    (hText : ∀ s, P (.text s))
    (modifiers : List Modifier) :
    ∀ p ∈ modifiersLayout modifiers, P p := by
  simp [modifiersLayout, hText]

/- Annotations are types with values. -/
theorem forall_mem_annotationsLayout
    (hText : ∀ s, P (.text s))
    {annotations : List Annotation}
    (hTypes : ∀ a ∈ annotations, P (.type (.class a.type)))
    (hValues :
      ∀ a ∈ annotations, ∀ code ∈ a.value,
        ∀ p ∈ code.parts, P p) :
    ∀ p ∈ annotationsLayout annotations, P p := by
  unfold annotationsLayout
  rw [List.forall_mem_flatMap]
  intro a hA
  have hType := hTypes a hA
  have hValue := hValues a hA
  cases hCode : a.value with
  | none => simp [hCode, Annotation.layout, hText, hType]
  | some code =>
      rw [hCode] at hValue
      have hParts := hValue code rfl
      simpa [hCode, Annotation.layout, hText, hType, or_imp,
        forall_and] using hParts

/- Type variables are written with their bounds. -/
theorem forall_mem_typeVariablesLayout
    (hText : ∀ s, P (.text s))
    {declared : List TypeName}
    {ending : String}
    (hDeclared :
      ∀ t ∈ declared, ∀ p ∈ typeVariableLayout t, P p) :
    ∀ p ∈ typeVariablesLayout declared ending, P p := by
  unfold typeVariablesLayout
  split
  · simp
  · rw [List.forall_mem_append, List.forall_mem_append]
    refine ⟨⟨by simp [hText], ?_⟩, by simp [hText]⟩
    exact forall_mem_separated hText
      (List.forall_mem_map.mpr hDeclared)

/- Types are written with commas between them. -/
theorem forall_mem_typeList
    (hText : ∀ s, P (.text s))
    {types : List TypeName}
    (hTypes : ∀ t ∈ types, P (.type t)) :
    ∀ p ∈ typeList types, P p := by
  apply forall_mem_separated hText
  rw [List.forall_mem_map]
  intro t hT
  exact List.forall_mem_singleton.mpr (hTypes t hT)

/- A parameter has a type, of which the component is shown. -/
theorem Parameter.forall_mem_layout
    (hText : ∀ s, P (.text s))
    (hArray : ∀ t, P (.type (.array t)) → P (.type t))
    {p : Parameter}
    (isVariadic : Bool)
    (hType : P (.type p.type)) :
    ∀ part ∈ p.layout isVariadic, P part := by
  unfold Parameter.layout
  rw [List.forall_mem_append, List.forall_mem_append]
  refine ⟨⟨?_, ?_⟩, by simp [hText]⟩
  · cases p.isFinal <;> simp [hText]
  · split
    · rename_i component hComponent
      rw [hComponent] at hType
      simp [hText, hArray component hType]
    · simp [hType]

/- So have all parameters. -/
theorem forall_mem_parametersLayout
    (hText : ∀ s, P (.text s))
    (hArray : ∀ t, P (.type (.array t)) → P (.type t))
    {parameters : List Parameter}
    (isVariadic : Bool)
    (hTypes : ∀ p ∈ parameters, P (.type p.type)) :
    ∀ group ∈ parametersLayout isVariadic parameters,
      ∀ part ∈ group, P part := by
  induction parameters with
  | nil => simp [parametersLayout]
  | cons p parameters ih =>
      rw [List.forall_mem_cons] at hTypes
      cases parameters with
      | nil =>
          exact List.forall_mem_singleton.mpr
            (p.forall_mem_layout hText hArray isVariadic
              hTypes.1)
      | cons next more =>
          exact List.forall_mem_cons.mpr
            ⟨p.forall_mem_layout hText hArray false hTypes.1,
              ih hTypes.2⟩

------------------------------------------------------------
-- Declarations
------------------------------------------------------------

/- A method up to its body. -/
def Method.headLayout
    (m : Method)
    (enclosing : String) :
    List Code.Part :=
  javadocLayout m.javadoc ++
    annotationsLayout m.annotations ++
    modifiersLayout m.modifiers ++
    typeVariablesLayout m.typeVariables "> " ++
    m.nameLayout enclosing ++
    [.text "("] ++
    separated ", "
      (parametersLayout m.isVariadic m.parameters) ++
    [.text ")"] ++
    throwsLayout m.throws

theorem Method.layout_eq_head
    (m : Method)
    (enclosing : String)
    (inInterface : Bool) :
    m.layout enclosing inInterface =
      m.headLayout enclosing ++ m.bodyLayout inInterface :=
  rfl

/- The head of a method is made of its types. -/
theorem Method.forall_mem_headLayout
    (hText : ∀ s, P (.text s))
    (hArray : ∀ t, P (.type (.array t)) → P (.type t))
    {m : Method}
    (enclosing : String)
    (hAnnotations :
      ∀ p ∈ annotationsLayout m.annotations, P p)
    (hVariables :
      ∀ t ∈ m.typeVariables, ∀ p ∈ typeVariableLayout t, P p)
    (hReturns : P (.type m.returns))
    (hParameters : ∀ p ∈ m.parameters, P (.type p.type))
    (hThrows : ∀ t ∈ m.throws, P (.type t)) :
    ∀ p ∈ m.headLayout enclosing, P p := by
  have hName : ∀ p ∈ m.nameLayout enclosing, P p := by
    unfold Method.nameLayout
    cases m.kind <;> simp [hText, hReturns]
  have hThrown : ∀ p ∈ throwsLayout m.throws, P p := by
    unfold throwsLayout
    split
    · simp
    · exact List.forall_mem_append.mpr
        ⟨by simp [hText], forall_mem_typeList hText hThrows⟩
  have hMark : ∀ s : String, ∀ p ∈ [Code.Part.text s], P p :=
    fun s => List.forall_mem_singleton.mpr (hText s)
  unfold Method.headLayout
  simp only [List.forall_mem_append]
  exact ⟨⟨⟨⟨⟨⟨⟨⟨forall_mem_javadocLayout hText _,
    hAnnotations⟩,
    forall_mem_modifiersLayout hText _⟩,
    forall_mem_typeVariablesLayout hText hVariables⟩,
    hName⟩, hMark _⟩,
    forall_mem_separated hText
      (forall_mem_parametersLayout hText hArray _
        hParameters)⟩,
    hMark _⟩, hThrown⟩

/- A type up to the brace before its members. -/
def TypeDecl.headLayout
    (d : TypeDecl) :
    List Code.Part :=
  javadocLayout d.javadoc ++
    annotationsLayout d.annotations ++
    modifiersLayout d.modifiers ++
    [.text (d.kind.keyword ++ " "), .text d.name] ++
    typeVariablesLayout d.typeVariables ">" ++
    superclassLayout d.superclass ++
    superinterfacesLayout d.kind d.superinterfaces

theorem TypeDecl.layout_eq_head
    (d : TypeDecl) :
    d.layout =
      d.headLayout ++ [.text " \x7b\n", .indent] ++
        separated "\n" d.members ++
        [.unindent, .text "\x7d\n"] :=
  rfl

/- The head of a type is made of its types. -/
theorem TypeDecl.forall_mem_headLayout
    (hText : ∀ s, P (.text s))
    {d : TypeDecl}
    (hAnnotations :
      ∀ p ∈ annotationsLayout d.annotations, P p)
    (hVariables :
      ∀ t ∈ d.typeVariables, ∀ p ∈ typeVariableLayout t, P p)
    (hSuperclass : ∀ t ∈ d.superclass, P (.type t))
    (hInterfaces : ∀ t ∈ d.superinterfaces, P (.type t)) :
    ∀ p ∈ d.headLayout, P p := by
  have hClass : ∀ p ∈ superclassLayout d.superclass, P p := by
    unfold superclassLayout
    cases hSuper : d.superclass with
    | none => simp
    | some t =>
        have hType := hSuperclass t (hSuper ▸ rfl)
        simp [hText, hType]
  have hInterface :
      ∀ p ∈ superinterfacesLayout d.kind d.superinterfaces,
        P p := by
    unfold superinterfacesLayout
    split
    · simp
    · exact List.forall_mem_append.mpr
        ⟨by simp [hText],
          forall_mem_typeList hText hInterfaces⟩
  unfold TypeDecl.headLayout
  simp only [List.forall_mem_append]
  exact ⟨⟨⟨⟨⟨⟨forall_mem_javadocLayout hText _,
    hAnnotations⟩,
    forall_mem_modifiersLayout hText _⟩,
    by simp [hText]⟩,
    forall_mem_typeVariablesLayout hText hVariables⟩,
    hClass⟩, hInterface⟩

------------------------------------------------------------
-- Places of Members
------------------------------------------------------------

/- A group comes behind the others and their separators. -/
theorem separated_append_cons
    (separator : String)
    (before : List (List Code.Part))
    (group : List Code.Part)
    (after : List (List Code.Part)) :
    separated separator (before ++ group :: after) =
      before.flatMap (· ++ [.text separator]) ++ group ++
        after.flatMap (.text separator :: ·) := by
  have hAfter :
      ∀ group, separated separator (group :: after) =
        group ++ after.flatMap (.text separator :: ·) := by
    induction after with
    | nil => simp [separated]
    | cons next after ih =>
        intro group
        rw [separated, ih next, List.flatMap_cons,
          List.cons_append]
  induction before with
  | nil => exact hAfter group
  | cons first before ih =>
      have hMore :
          ∃ next more, before ++ group :: after = next :: more :=
        List.exists_cons_of_ne_nil (by simp)
      rcases hMore with ⟨next, more, hMore⟩
      rw [List.cons_append, hMore, separated, ← hMore, ih]
      simp

namespace TypeDecl

variable {d : TypeDecl}

/- A type up to its first member. -/
def opening
    (d : TypeDecl) :
    List Code.Part :=
  d.headLayout ++ [.text " \x7b\n", .indent]

/- A type up to a member that stands behind others. -/
def beforeMember
    (d : TypeDecl)
    (before : List (List Code.Part)) :
    List Code.Part :=
  d.opening ++ before.flatMap (· ++ [.text "\n"])

/- A type behind a member that stands in front of others. -/
def behindMember
    (after : List (List Code.Part)) :
    List Code.Part :=
  after.flatMap (.text "\n" :: ·) ++
    [.unindent, .text "\x7d\n"]

/- A type, split at one of its members. -/
theorem layout_eq_split
    {before after : List (List Code.Part)}
    {member : List Code.Part}
    (hMembers : d.members = before ++ member :: after) :
    d.layout =
      d.beforeMember before ++ member ++
        behindMember after := by
  rw [layout_eq_head, hMembers, separated_append_cons]
  simp [beforeMember, behindMember, opening]

/- A type up to the brace that ends it. -/
def unclosed
    (d : TypeDecl) :
    List Code.Part :=
  d.opening ++ separated "\n" d.members

theorem layout_eq_unclosed
    (d : TypeDecl) :
    d.layout = d.unclosed ++ [.unindent, .text "\x7d\n"] := by
  rw [layout_eq_head, unclosed, opening]

end TypeDecl

end ClientGen.Java
