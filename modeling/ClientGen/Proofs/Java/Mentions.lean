import ClientGen.Java.SourceFile

/-
  What a declaration writes it also mentions.

  Main declarations include:
    * `TypeName.written`
    * `TypeName.spell_congr`
    * `renderParts_congr`
    * `Method.mentions_layout`
    * `TypeDecl.mentions_layout`

  A layout is read part by part.  The text it gives depends
  on the spelling of the classes its types write, and those
  are among the classes found by walking the data.
-/

namespace ClientGen.Java

------------------------------------------------------------
-- Written Classes
------------------------------------------------------------

mutual

/-
  The classes a type writes where it is used.  A variable
  writes its name, and its bounds elsewhere.
-/
def TypeName.written : TypeName → List ClassName
  | .void => []
  | .primitive _ => []
  | .class c => [c]
  | .generic raw arguments =>
      raw :: TypeName.writtenAll arguments
  | .array component => component.written
  | .variable _ _ => []

/- The classes the types of a list write. -/
def TypeName.writtenAll : List TypeName → List ClassName
  | [] => []
  | t :: rest => t.written ++ TypeName.writtenAll rest

end

/- The classes a part of code writes. -/
def Code.Part.written : Code.Part → List ClassName
  | .type t => t.written
  | _ => []

mutual

/- A type mentions what it writes. -/
theorem TypeName.written_subset :
    (t : TypeName) → t.written ⊆ t.mentions
  | .void => List.Subset.refl _
  | .primitive _ => List.Subset.refl _
  | .class _ => List.Subset.refl _
  | .generic raw arguments =>
      List.cons_subset_cons raw
        (TypeName.writtenAll_subset arguments)
  | .array component => TypeName.written_subset component
  | .variable _ _ => List.nil_subset _

/- The types of a list mention what they write. -/
theorem TypeName.writtenAll_subset :
    (types : List TypeName) →
      TypeName.writtenAll types ⊆ TypeName.mentionsAll types
  | [] => List.Subset.refl _
  | t :: rest => by
      unfold TypeName.writtenAll TypeName.mentionsAll
      intro c hC
      rcases List.mem_append.mp hC with hC | hC
      · exact List.mem_append_left _
          (TypeName.written_subset t hC)
      · exact List.mem_append_right _
          (TypeName.writtenAll_subset rest hC)

end

/- Parts of code mention what they write. -/
theorem flatMap_written_subset
    (parts : List Code.Part) :
    parts.flatMap Code.Part.written ⊆
      parts.flatMap Code.Part.mentions := by
  intro c hC
  rcases List.mem_flatMap.mp hC with ⟨part, hPart, hIn⟩
  refine List.mem_flatMap.mpr ⟨part, hPart, ?_⟩
  cases part with
  | type t => exact t.written_subset hIn
  | text s => exact hIn
  | indent => exact hIn
  | unindent => exact hIn

------------------------------------------------------------
-- Spellings That Agree
------------------------------------------------------------

section

variable {spell other : ClassName → String}

mutual

/- A type is spelled by the classes it writes. -/
theorem TypeName.spell_congr :
    (t : TypeName) →
      (∀ c ∈ t.written, spell c = other c) →
        t.spell spell = t.spell other
  | .void, _ => rfl
  | .primitive _, _ => rfl
  | .class c, hAgree => hAgree c (List.mem_singleton_self c)
  | .generic raw arguments, hAgree => by
      rcases List.forall_mem_cons.mp hAgree with
        ⟨hRaw, hArguments⟩
      simp only [TypeName.spell]
      rw [hRaw, TypeName.spellAll_congr arguments hArguments]
  | .array component, hAgree => by
      simp only [TypeName.spell]
      rw [TypeName.spell_congr component hAgree]
  | .variable _ _, _ => rfl

/- So are the types of a list. -/
theorem TypeName.spellAll_congr :
    (types : List TypeName) →
      (∀ c ∈ TypeName.writtenAll types, spell c = other c) →
        TypeName.spellAll spell types =
          TypeName.spellAll other types
  | [], _ => rfl
  | t :: rest, hAgree => by
      rcases List.forall_mem_append.mp hAgree with
        ⟨hFirst, hRest⟩
      simp only [TypeName.spellAll]
      rw [TypeName.spell_congr t hFirst,
        TypeName.spellAll_congr rest hRest]

end

/- A part leads to the same page. -/
theorem Page.putPart_congr
    (page : Page)
    (part : Code.Part)
    (hAgree : ∀ c ∈ part.written, spell c = other c) :
    page.putPart spell part = page.putPart other part := by
  cases part with
  | text s => rfl
  | type t =>
      simp only [Page.putPart]
      rw [t.spell_congr hAgree]
  | indent => rfl
  | unindent => rfl

/- Parts lead to the same page. -/
theorem Page.putParts_congr
    (page : Page)
    (parts : List Code.Part)
    (hAgree :
      ∀ c ∈ parts.flatMap Code.Part.written,
        spell c = other c) :
    page.putParts spell parts = page.putParts other parts := by
  induction parts generalizing page with
  | nil => rfl
  | cons part rest ih =>
      rw [List.flatMap_cons] at hAgree
      rcases List.forall_mem_append.mp hAgree with
        ⟨hFirst, hRest⟩
      unfold Page.putParts
      rw [List.foldl_cons, List.foldl_cons,
        Page.putPart_congr page part hFirst]
      exact ih _ hRest

/- Code is rendered by the classes it writes. -/
theorem renderParts_congr
    (parts : List Code.Part)
    (hAgree :
      ∀ c ∈ parts.flatMap Code.Part.written,
        spell c = other c) :
    renderParts spell parts = renderParts other parts := by
  unfold renderParts
  rw [Page.putParts_congr Page.blank parts hAgree]

end

------------------------------------------------------------
-- Separated Parts
------------------------------------------------------------

/- A text mentions no class. -/
@[simp]
theorem Code.Part.mentions_text
    (s : String) :
    Code.Part.mentions (.text s) = [] :=
  rfl

/- A type in code mentions the classes of the type. -/
@[simp]
theorem Code.Part.mentions_type
    (t : TypeName) :
    Code.Part.mentions (.type t) = t.mentions :=
  rfl

/- Neither does a change of level. -/
@[simp]
theorem Code.Part.mentions_indent :
    Code.Part.mentions .indent = [] :=
  rfl

@[simp]
theorem Code.Part.mentions_unindent :
    Code.Part.mentions .unindent = [] :=
  rfl

/- The separators between groups mention nothing. -/
@[simp]
theorem mentions_separated
    (separator : String)
    (groups : List (List Code.Part)) :
    (separated separator groups).flatMap Code.Part.mentions =
      groups.flatMap (·.flatMap Code.Part.mentions) := by
  induction groups with
  | nil => rfl
  | cons group rest ih =>
      cases rest with
      | nil => simp [separated]
      | cons next more =>
          rw [separated, List.flatMap_append,
            List.flatMap_cons, ih]
          simp

/- The classes of a list of types, type by type. -/
theorem TypeName.mentionsAll_eq_flatMap
    (types : List TypeName) :
    TypeName.mentionsAll types =
      types.flatMap TypeName.mentions := by
  induction types with
  | nil => rfl
  | cons t rest ih =>
      rw [TypeName.mentionsAll, ih, List.flatMap_cons]

/- Types with commas mention the classes of the types. -/
@[simp]
theorem mentions_typeList
    (types : List TypeName) :
    (typeList types).flatMap Code.Part.mentions =
      TypeName.mentionsAll types := by
  rw [TypeName.mentionsAll_eq_flatMap, typeList,
    mentions_separated, List.flatMap_map]
  simp

/- A text that is merged with another mentions nothing. -/
theorem Code.Part.mentions_before
    (part : Code.Part)
    (rest : List Code.Part) :
    (part.before rest).flatMap Code.Part.mentions =
      part.mentions ++ rest.flatMap Code.Part.mentions := by
  unfold before
  split
  · split <;> simp
  · split <;> simp
  · rfl

/- The normal form mentions what the parts do. -/
theorem Code.mentions_ofParts
    (parts : List Code.Part) :
    (Code.ofParts parts).mentions =
      parts.flatMap Code.Part.mentions := by
  unfold mentions ofParts
  induction parts with
  | nil => rfl
  | cons part rest ih =>
      rw [List.foldr_cons, Code.Part.mentions_before, ih,
        List.flatMap_cons]

------------------------------------------------------------
-- Parts of Declarations
------------------------------------------------------------

/- Texts alone mention nothing. -/
theorem mentions_map_text
    {α : Type}
    (text : α → String)
    (items : List α) :
    (items.map fun item => Code.Part.text (text item)
      ).flatMap Code.Part.mentions = [] := by
  rw [List.flatMap_map]
  simp

/- A comment mentions nothing. -/
@[simp]
theorem mentions_javadocLayout
    (javadoc : Option String) :
    (javadocLayout javadoc).flatMap Code.Part.mentions = [] := by
  cases javadoc with
  | none => rfl
  | some text =>
      unfold javadocLayout
      rw [List.flatMap_append, List.flatMap_append,
        mentions_map_text (fun line => line)]
      rfl

/- Modifiers mention nothing. -/
@[simp]
theorem mentions_modifiersLayout
    (modifiers : List Modifier) :
    (modifiersLayout modifiers).flatMap Code.Part.mentions =
      [] :=
  mentions_map_text
    (fun m : Modifier => m.keyword ++ " ") modifiers

/- An annotation is written with all it mentions. -/
@[simp]
theorem Annotation.mentions_layout
    (a : Annotation) :
    a.layout.flatMap Code.Part.mentions = a.mentions := by
  unfold Annotation.layout Annotation.mentions
  cases a.value with
  | none => rfl
  | some value =>
      simp [TypeName.mentions, Code.mentions]

/- So are annotations on a line each. -/
@[simp]
theorem mentions_annotationsLayout
    (annotations : List Annotation) :
    (annotationsLayout annotations).flatMap
        Code.Part.mentions =
      annotations.flatMap Annotation.mentions := by
  unfold annotationsLayout
  rw [List.flatMap_assoc]
  simp

/- A type variable is declared with its bounds. -/
@[simp]
theorem mentions_typeVariableLayout
    (t : TypeName) :
    (typeVariableLayout t).flatMap Code.Part.mentions =
      t.mentions := by
  unfold typeVariableLayout
  split
  · rename_i name bound more
    simp [List.flatMap_map, TypeName.mentions,
      TypeName.mentionsAll_eq_flatMap]
  · simp

/- Type variables mention what their bounds do. -/
@[simp]
theorem mentions_typeVariablesLayout
    (declared : List TypeName)
    (ending : String) :
    (typeVariablesLayout declared ending).flatMap
        Code.Part.mentions =
      TypeName.mentionsAll declared := by
  unfold typeVariablesLayout
  cases declared with
  | nil => rfl
  | cons t rest =>
      simp [List.flatMap_map, TypeName.mentionsAll_eq_flatMap]

------------------------------------------------------------
-- Members
------------------------------------------------------------

/- A variadic parameter writes the type of its components. -/
@[simp]
theorem Parameter.mentions_layout
    (p : Parameter)
    (isVariadic : Bool) :
    (p.layout isVariadic).flatMap Code.Part.mentions =
      p.type.mentions := by
  have hFinal :
      (if p.isFinal then [Code.Part.text "final "] else []
        ).flatMap Code.Part.mentions = [] := by
    cases p.isFinal <;> rfl
  unfold Parameter.layout
  rw [List.flatMap_append, List.flatMap_append, hFinal]
  split
  · rename_i component hType
    simp [hType, TypeName.mentions]
  · simp

/- Parameters mention the classes of their types. -/
@[simp]
theorem mentions_parametersLayout
    (isVariadic : Bool)
    (parameters : List Parameter) :
    (parametersLayout isVariadic parameters).flatMap
        (·.flatMap Code.Part.mentions) =
      parameters.flatMap (·.type.mentions) := by
  induction parameters with
  | nil => rfl
  | cons p rest ih =>
      cases rest with
      | nil => simp [parametersLayout]
      | cons next more =>
          rw [parametersLayout, List.flatMap_cons, ih]
          simp

/- A field is written with all it mentions. -/
@[simp]
theorem Field.mentions_layout
    (f : Field) :
    f.layout.flatMap Code.Part.mentions = f.mentions := by
  unfold Field.layout Field.mentions
  cases f.initializer with
  | none => simp
  | some value => simp [Code.mentions]

/- Parts of two lists are parts of both together. -/
theorem append_subset_append
    {α : Type}
    {before after before' after' : List α}
    (hBefore : before ⊆ before')
    (hAfter : after ⊆ after') :
    before ++ after ⊆ before' ++ after' := by
  refine List.append_subset.mpr ⟨?_, ?_⟩
  · exact List.subset_append_of_subset_left _ hBefore
  · exact List.subset_append_of_subset_right _ hAfter

/- A constructor does not write what it returns. -/
theorem Method.mentions_nameLayout
    (m : Method)
    (enclosing : String) :
    (m.nameLayout enclosing).flatMap Code.Part.mentions ⊆
      m.returns.mentions := by
  unfold Method.nameLayout
  cases m.kind with
  | constructor => exact List.nil_subset _
  | method name => simp

/- Declared exceptions are all written. -/
@[simp]
theorem mentions_throwsLayout
    (throws : List TypeName) :
    (throwsLayout throws).flatMap Code.Part.mentions =
      TypeName.mentionsAll throws := by
  unfold throwsLayout
  cases throws <;> simp [TypeName.mentionsAll]

/- A body is written or left out as a whole. -/
theorem Method.mentions_bodyLayout
    (m : Method)
    (inInterface : Bool) :
    (m.bodyLayout inInterface).flatMap Code.Part.mentions ⊆
      m.body.mentions := by
  unfold Method.bodyLayout
  cases m.hasBody inInterface with
  | false => exact List.nil_subset _
  | true => simp [Code.mentions]

/- A method mentions what its pieces do, in their order. -/
theorem Method.flatMap_mentions_layout
    (m : Method)
    (enclosing : String)
    (inInterface : Bool) :
    (m.layout enclosing inInterface).flatMap
        Code.Part.mentions =
      m.annotations.flatMap Annotation.mentions ++
        TypeName.mentionsAll m.typeVariables ++
        (m.nameLayout enclosing).flatMap
          Code.Part.mentions ++
        m.parameters.flatMap (·.type.mentions) ++
        TypeName.mentionsAll m.throws ++
        (m.bodyLayout inInterface).flatMap
          Code.Part.mentions := by
  unfold Method.layout
  simp

/-
  A method is written with classes it mentions.  One without
  a body does not write all of them, nor does a constructor.
-/
theorem Method.mentions_layout
    (m : Method)
    (enclosing : String)
    (inInterface : Bool) :
    (m.layout enclosing inInterface).flatMap
        Code.Part.mentions ⊆
      m.mentions := by
  rw [m.flatMap_mentions_layout]
  unfold Method.mentions
  refine append_subset_append ?_
    (m.mentions_bodyLayout inInterface)
  refine append_subset_append ?_ (List.Subset.refl _)
  refine append_subset_append ?_ (List.Subset.refl _)
  exact append_subset_append (List.Subset.refl _)
    (m.mentions_nameLayout enclosing)

------------------------------------------------------------
-- Types
------------------------------------------------------------

/- A superclass is written if there is one. -/
@[simp]
theorem mentions_superclassLayout
    (superclass : Option TypeName) :
    (superclassLayout superclass).flatMap
        Code.Part.mentions =
      superclass.elim [] TypeName.mentions := by
  unfold superclassLayout
  cases superclass <;> simp

/- Interfaces are all written. -/
@[simp]
theorem mentions_superinterfacesLayout
    (kind : TypeKind)
    (superinterfaces : List TypeName) :
    (superinterfacesLayout kind superinterfaces).flatMap
        Code.Part.mentions =
      TypeName.mentionsAll superinterfaces := by
  unfold superinterfacesLayout
  cases superinterfaces <;> simp [TypeName.mentionsAll]

/-
  The members of a type are written with classes that it
  mentions.
-/
theorem TypeDecl.mentions_members
    (d : TypeDecl) :
    d.members.flatMap (·.flatMap Code.Part.mentions) ⊆
      d.fields.flatMap Field.mentions ++
        d.methods.flatMap Method.mentions := by
  unfold TypeDecl.members
  rw [List.flatMap_append, List.flatMap_map,
    List.flatMap_map]
  simp only [Field.mentions_layout]
  refine append_subset_append (List.Subset.refl _) ?_
  intro c hC
  rcases List.mem_flatMap.mp hC with ⟨m, hM, hIn⟩
  exact List.mem_flatMap.mpr
    ⟨m, hM, m.mentions_layout _ _ hIn⟩

/- So does a type. -/
theorem TypeDecl.flatMap_mentions_layout
    (d : TypeDecl) :
    d.layout.flatMap Code.Part.mentions =
      d.annotations.flatMap Annotation.mentions ++
        TypeName.mentionsAll d.typeVariables ++
        d.superclass.elim [] TypeName.mentions ++
        TypeName.mentionsAll d.superinterfaces ++
        d.members.flatMap
          (·.flatMap Code.Part.mentions) := by
  unfold TypeDecl.layout
  simp

/- A type is written with classes it mentions. -/
theorem TypeDecl.mentions_layout
    (d : TypeDecl) :
    d.layout.flatMap Code.Part.mentions ⊆ d.mentions := by
  rw [d.flatMap_mentions_layout]
  unfold TypeDecl.mentions
  rw [List.append_assoc _ (d.fields.flatMap _)]
  exact append_subset_append (List.Subset.refl _)
    d.mentions_members

end ClientGen.Java
