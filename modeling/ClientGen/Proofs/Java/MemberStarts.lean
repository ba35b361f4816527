import ClientGen.Proofs.Java.PageLines
import ClientGen.Proofs.Java.WrittenText

/-
  Members of types begin with a mark or a word.

  Main declarations include:
    * `TypeName.beginsVisibly_spell`
    * `Field.begins_layout`
    * `Method.begins_layout`
    * `SourceFile.begins_members`

  A member begins with its comment, an annotation, a modifier,
  a bracket before type variables, or the word for a type or
  a constructor.  None of them begins with a blank, so the
  first line of the member stands right behind the margin.
-/

namespace ClientGen.Java

open ClientGen.Text

variable {spellClass : ClassName → String}

------------------------------------------------------------
-- Words
------------------------------------------------------------

/- Text behind a word leaves it where it is. -/
theorem BeginsVisibly.append
    {s : String}
    (hText : BeginsVisibly s)
    (t : String) :
    BeginsVisibly (s ++ t) := by
  rcases hText with ⟨first, hFirst, hVisible⟩
  refine ⟨first, ?_, hVisible⟩
  rw [String.toList_append, List.head?_append, hFirst]
  rfl

/- A text without blanks begins with none. -/
theorem beginsVisibly_of_not_mem
    {s : String}
    (hSome : s ≠ "")
    (hSpace : ' ' ∉ s.toList)
    (hFeed : '\n' ∉ s.toList) :
    BeginsVisibly s := by
  unfold BeginsVisibly
  cases hChars : s.toList with
  | nil =>
      exact absurd (String.toList_eq_nil_iff.mp hChars) hSome
  | cons first rest =>
      rw [hChars, List.mem_cons, not_or] at hSpace hFeed
      exact ⟨first, rfl, Ne.symm hSpace.1, Ne.symm hFeed.1⟩

/- So a text in the form of an identifier does not either. -/
theorem beginsVisibly_of_hasIdentifierForm
    {s : String}
    (hForm : hasIdentifierForm s.toList = true) :
    BeginsVisibly s := by
  rcases all_isIdentifierPart_of_form hForm with
    ⟨hSome, hParts⟩
  refine beginsVisibly_of_not_mem (by simpa using hSome) ?_ ?_
  · intro hMem
    exact absurd (hParts _ hMem) (by decide)
  · intro hMem
    exact absurd (hParts _ hMem) (by decide)

theorem beginsVisibly_of_isIdentifier
    {s : String}
    (hName : isIdentifier s = true) :
    BeginsVisibly s :=
  beginsVisibly_of_hasIdentifierForm
    (hasIdentifierForm_of_isIdentifier hName)

/- A legal class begins with one of its names. -/
theorem ClassName.IsLegal.beginsVisibly_spell
    {c : ClassName}
    (hC : c.IsLegal)
    (hSpells : SpellsNames spellClass) :
    BeginsVisibly (spellClass c) := by
  rcases hSpells c with hName | hName
  · rw [hName]
    exact beginsVisibly_of_not_mem hC.relative_ne_empty
      (hC.not_mem_relative (by decide) (by decide))
      (hC.not_mem_relative (by decide) (by decide))
  · rw [hName]
    exact beginsVisibly_of_not_mem hC.canonical_ne_empty
      (hC.not_mem_canonical (by decide) (by decide))
      (hC.not_mem_canonical (by decide) (by decide))

/- A legal type begins with a word. -/
theorem TypeName.beginsVisibly_spell
    (hSpells : SpellsNames spellClass)
    (t : TypeName)
    (hLegal : t.IsLegal) :
    BeginsVisibly (t.spell spellClass) := by
  rcases t with
    _ | kind | c | ⟨raw, arguments⟩ | component | ⟨name, bounds⟩
  · rw [spell]
    exact ⟨'v', rfl, by decide, by decide⟩
  · rw [isLegal_primitive_iff] at hLegal
    rw [spell]
    exact beginsVisibly_of_hasIdentifierForm hLegal
  · rw [isLegal_class_iff] at hLegal
    rw [spell]
    exact hLegal.beginsVisibly_spell hSpells
  · rw [isLegal_generic_iff] at hLegal
    rw [spell, String.append_assoc, String.append_assoc]
    exact (hLegal.1.beginsVisibly_spell hSpells).append _
  · -- An array begins like its component.
    rw [isLegal_array_iff] at hLegal
    rw [spell]
    exact (TypeName.beginsVisibly_spell hSpells component
      hLegal).append _
  · rw [isLegal_variable_iff] at hLegal
    rw [spell]
    exact beginsVisibly_of_isIdentifier hLegal.1

------------------------------------------------------------
-- What May Stand in Front
------------------------------------------------------------

/- A comment begins with its mark. -/
theorem begins_javadocLayout
    (javadoc : Option String) :
    javadocLayout javadoc = [] ∨
      Begins spellClass (javadocLayout javadoc) := by
  cases javadoc with
  | none => exact .inl rfl
  | some text =>
      exact .inr (.text ⟨'/', rfl, by decide, by decide⟩)

/- So do annotations. -/
theorem begins_annotationsLayout
    (annotations : List Annotation) :
    annotationsLayout annotations = [] ∨
      Begins spellClass (annotationsLayout annotations) := by
  cases annotations with
  | nil => exact .inl rfl
  | cons a rest =>
      exact .inr (.text ⟨'@', rfl, by decide, by decide⟩)

/- Modifiers are words. -/
theorem begins_modifiersLayout
    (modifiers : List Modifier) :
    modifiersLayout modifiers = [] ∨
      Begins spellClass (modifiersLayout modifiers) := by
  cases modifiers with
  | nil => exact .inl rfl
  | cons m rest =>
      refine .inr (.text (BeginsVisibly.append ?_ " "))
      cases m <;> exact ⟨_, rfl, by decide, by decide⟩

/- Type variables stand in brackets. -/
theorem begins_typeVariablesLayout
    (declared : List TypeName)
    (ending : String) :
    typeVariablesLayout declared ending = [] ∨
      Begins spellClass
        (typeVariablesLayout declared ending) := by
  cases declared with
  | nil => exact .inl rfl
  | cons t rest =>
      exact .inr (.text ⟨'<', rfl, by decide, by decide⟩)

------------------------------------------------------------
-- Members
------------------------------------------------------------

/- A legal field begins with one of these or its type. -/
theorem Field.begins_layout
    {f : Field}
    (hSpells : SpellsNames spellClass)
    (hField : f.IsLegal) :
    Begins spellClass f.layout := by
  rw [Field.isLegal_iff] at hField
  have hType :
      Begins spellClass
        ([.type f.type, .text " ", .text f.name] ++
          (f.initializer.elim [] fun value =>
            [.text " = "] ++ value.parts) ++
          [.text ";\n"]) :=
    .type (f.type.beginsVisibly_spell hSpells hField.2.1)
  have hModifiers :=
    hType.behind (begins_modifiersLayout f.modifiers)
  have hJavadoc :=
    hModifiers.behind (begins_javadocLayout f.javadoc)
  unfold Field.layout
  simpa only [List.append_assoc] using hJavadoc

/- A legal method or constructor does too. -/
theorem Method.begins_layout
    {m : Method}
    {enclosing : String}
    (hSpells : SpellsNames spellClass)
    (hMethod : m.IsLegal)
    (hEnclosing : isIdentifier enclosing = true)
    (inInterface : Bool) :
    Begins spellClass (m.layout enclosing inInterface) := by
  rw [Method.isLegal_iff] at hMethod
  have hName : Begins spellClass (m.nameLayout enclosing) := by
    unfold Method.nameLayout
    cases m.kind with
    | constructor =>
        exact .text (beginsVisibly_of_isIdentifier hEnclosing)
    | method name =>
        exact .type (m.returns.beginsVisibly_spell hSpells
          hMethod.2.2.2.1)
  have hVariables :=
    hName.behind
      (begins_typeVariablesLayout m.typeVariables "> ")
  have hModifiers :=
    hVariables.behind (begins_modifiersLayout m.modifiers)
  have hAnnotations :=
    hModifiers.behind (begins_annotationsLayout m.annotations)
  have hJavadoc :=
    hAnnotations.behind (begins_javadocLayout m.javadoc)
  have hLayout := hJavadoc.append
    ([.text "("] ++
      separated ", "
        (parametersLayout m.isVariadic m.parameters) ++
      [.text ")"] ++ throwsLayout m.throws ++
      m.bodyLayout inInterface)
  unfold Method.layout
  simpa only [List.append_assoc] using hLayout

/- All members of a safe declaration do. -/
theorem TypeDecl.LexicallySafe.begins_members
    {d : TypeDecl}
    (hSpells : SpellsNames spellClass)
    (hSafe : d.LexicallySafe) :
    ∀ member ∈ d.members, Begins spellClass member := by
  rcases TypeDecl.lexicallySafe_iff.mp hSafe with
    ⟨hName, hPieces⟩
  unfold members
  rw [List.forall_mem_append, List.forall_mem_map,
    List.forall_mem_map]
  exact ⟨fun f hF =>
      f.begins_layout hSpells (hPieces.fields f hF),
    fun m hM =>
      m.begins_layout hSpells (hPieces.methods m hM) hName _⟩

/- The marker of generated code changes no member. -/
theorem SourceFile.members_declaration
    (f : SourceFile) :
    f.declaration.members = f.type.members := by
  unfold declaration
  cases f.marker with
  | none => rfl
  | some value => rfl

/- So the members of files of such declarations do. -/
theorem SourceFile.begins_members
    {f : SourceFile}
    (hSafe : f.type.LexicallySafe) :
    ∀ member ∈ f.declaration.members,
      Begins f.scope.spell member := by
  rw [f.members_declaration]
  exact hSafe.begins_members f.scope.spellsNames

end ClientGen.Java
