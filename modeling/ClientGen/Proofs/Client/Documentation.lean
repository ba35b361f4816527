import ClientGen.Proofs.Client.Declared
import ClientGen.Proofs.Java.Comments
import ClientGen.Proofs.Text.Pieces

/-
  The documentation of operations in the interfaces of
  clients, and which texts of a model break out of it.

  Main declarations include:
    * `BreaksOut`
    * `endsComment_operationJavadoc_iff`
    * `Documents`
    * `SyncParts.Checked.documents`
    * `generate_documentation`
    * `exists_unsealed_documentation`

  Everything in a comment that is not of the model's making
  is harmless, and the checked name of a parameter is too.
  The documentation and the name of an operation are neither
  checked nor changed.
-/

namespace ClientGen.Client

open ClientGen.Java ClientGen.Model ClientGen.Text

------------------------------------------------------------
-- Texts of Operations
------------------------------------------------------------

/-
  A text of the operation ends the comment in which it is
  written.
-/
def BreaksOut
    (o : Operation) :
    Prop :=
  EndsComment (o.documentation.getD "").toList ∨
    EndsComment o.name.toList

instance
    (o : Operation) :
    Decidable (BreaksOut o) :=
  inferInstanceAs (Decidable (_ ∨ _))

/- A text that cannot help others to end a comment. -/
def Divides
    (text : List Char) :
    Prop :=
  text.head?.any (· ≠ '/') = true ∧ '*' ∉ text

/- Such a text keeps what is before it from what follows. -/
theorem endsComment_divided_iff
    {before between after : List Char}
    (hBetween : Divides between) :
    EndsComment (before ++ between ++ after) ↔
      EndsComment before ∨ EndsComment after := by
  rcases hBetween with ⟨hHead, hStar⟩
  have hSlash : between.head? ≠ some '/' := by
    intro hSome
    simp [hSome] at hHead
  have hLast :
      (before ++ between).getLast? ≠ some '*' := by
    intro hSome
    cases between with
    | nil => cases hHead
    | cons c between =>
        rw [List.getLast?_append_of_ne_nil _ (by simp)] at hSome
        exact hStar (List.mem_of_getLast? hSome)
  rw [endsComment_append_iff (.inl hLast),
    endsComment_append_iff (.inr hSlash)]
  simp [not_endsComment_of_star_not_mem hStar]

/- No character of an identifier is a star. -/
theorem Identifier.star_not_mem
    (i : Identifier) :
    '*' ∉ i.text.toList := by
  intro hStar
  have hPart := (all_isIdentifierPart i.valid).2 '*' hStar
  exact absurd hPart (by decide)

/- The words around the name of a parameter divide. -/
theorem divides_parameter
    (input : Identifier) :
    Divides
      ("\n\n@param ".toList ++ input.text.toList ++
        " the ".toList) := by
  simp [Divides, input.star_not_mem]

/- The words before a result, and those behind it. -/
def Flavour.resultOpening : Flavour → List Char
  | .sync =>
      " request\n@return ".toList ++ "Result of the ".toList
  | .async =>
      " request\n@return ".toList ++
        "A future completing with the result of the ".toList

def resultEnding :
    List Char :=
  " operation returned by the service.".toList

/- They divide too. -/
theorem divides_result
    (flavour : Flavour) :
    Divides flavour.resultOpening ∧ Divides resultEnding := by
  -- Literals are rewritten to characters for `simp` to read.
  cases flavour <;>
    unfold Flavour.resultOpening resultEnding Divides <;>
    repeat rw [String.toList_ofList]
  · simp
  · simp

/- The documentation of an operation, piece by piece. -/
theorem toList_operationJavadoc
    (flavour : Flavour)
    (types : OperationTypes) :
    (operationJavadoc flavour types).toList =
      (operationSummary types.operation).toList ++
        ("\n\n@param ".toList ++ types.input.text.toList ++
          " the ".toList) ++
        (types.operation.name.toList ++
          flavour.resultOpening ++
          (types.operation.name.toList ++ resultEnding ++
            [])) := by
  unfold operationJavadoc Flavour.resultJavadoc
    Flavour.resultOpening resultEnding
  cases flavour <;>
    simp only [String.toList_append, List.append_assoc,
      List.append_nil]

/- The first words break out if a text of the model does. -/
theorem endsComment_operationSummary
    (o : Operation) :
    EndsComment (operationSummary o).toList ∨
        EndsComment o.name.toList ↔
      BreaksOut o := by
  have hTrimmed :
      ∀ text : String,
        EndsComment (trimmed text).toList ↔
          EndsComment text.toList := by
    intro text
    rw [trimmed, String.toList_ofList, endsComment_trim_iff]
  have hDocumented :
      EndsComment
          ((o.documentation.map trimmed).getD "").toList ↔
        EndsComment (o.documentation.getD "").toList := by
    cases o.documentation with
    | none => exact Iff.rfl
    | some text => exact hTrimmed text
  unfold BreaksOut operationSummary
  rw [← hDocumented]
  by_cases hEmpty : (o.documentation.map trimmed).getD "" = ""
  · have hWords :
        ("Invokes the " ++ o.name ++ " operation.").toList =
          [] ++ "Invokes the ".toList ++
            (o.name.toList ++ " operation.".toList ++ []) := by
      simp
    have hOpening : Divides "Invokes the ".toList := by
      simp [Divides]
    have hEnding : Divides " operation.".toList := by
      simp [Divides]
    simp only [hEmpty, if_true]
    rw [hWords, endsComment_divided_iff hOpening,
      endsComment_divided_iff hEnding]
    simp
  · simp only [hEmpty, if_false]

/- So does the whole documentation. -/
theorem endsComment_operationJavadoc_iff
    {flavour : Flavour}
    {types : OperationTypes} :
    EndsComment (operationJavadoc flavour types).toList ↔
      BreaksOut types.operation := by
  rcases divides_result flavour with ⟨hOpening, hEnding⟩
  rw [toList_operationJavadoc,
    endsComment_divided_iff (divides_parameter types.input),
    endsComment_divided_iff hOpening,
    endsComment_divided_iff hEnding,
    ← endsComment_operationSummary]
  simp

------------------------------------------------------------
-- Documented Methods
------------------------------------------------------------

/-
  A file documents a method of its type by the lines of a
  block: the block stands in the text of the file, and the
  rest of the method right behind it.
-/
structure Documents
    (f : SourceFile)
    (m : Method)
    (block : List (List Char)) :
    Prop where
  member : m ∈ f.type.methods
  written :
    ∃ before level text after,
      m.javadoc = some text ∧
        block = commentBlock level text ∧
        f.render =
          before ++ String.ofList (unlines block) ++
            (Page.putParts f.scope.spell ⟨"", level, true⟩
              (Method.layout { m with javadoc := none }
                f.type.name
                (f.type.kind == .interfaceType))).text ++
            after

/- The interface of a flavour has its role in the family. -/
def Flavour.interfaceRole : Flavour → Role
  | .sync => .syncInterface
  | .async => .asyncInterface

/- The interfaces declare every operation. -/
theorem declaredOperation_mem_methods
    {p : SyncParts}
    (flavour : Flavour)
    {types : OperationTypes}
    (hTypes : types ∈ p.operations) :
    declaredOperation flavour types ∈
      (flavour.interfaceRole.declare p).methods := by
  have hOperation := List.mem_map_of_mem
    (f := declaredOperation flavour) hTypes
  cases flavour with
  | sync =>
      simp only [Flavour.interfaceRole, Role.declare,
        syncInterface, List.mem_append]
      exact .inl (.inl (.inl (.inr hOperation)))
  | async =>
      simp only [Flavour.interfaceRole, Role.declare,
        asyncInterface, List.mem_append]
      exact .inr hOperation

/-
  The files of the interfaces document every operation, by
  a block that is sealed if no text of it breaks out.
-/
theorem exists_documents
    {p : SyncParts}
    (flavour : Flavour)
    {types : OperationTypes}
    (hTypes : types ∈ p.operations)
    (emitter : Emitter)
    (package : String) :
    ∃ block,
      Documents
          (emitter.sourceFile package
            (flavour.interfaceRole.declare p))
          (declaredOperation flavour types) block ∧
        (Sealed block ↔ ¬BreaksOut types.operation) := by
  have hMember :=
    declaredOperation_mem_methods flavour hTypes
  rcases SourceFile.exists_render_eq
      (f := emitter.sourceFile package
        (flavour.interfaceRole.declare p))
      hMember rfl with
    ⟨before, level, after, hRender⟩
  refine ⟨commentBlock level (operationJavadoc flavour types),
    ⟨hMember, before, level, _, after, rfl, rfl, hRender⟩, ?_⟩
  rw [sealed_commentBlock_iff,
    endsComment_operationJavadoc_iff]

/-
  Whenever files are generated, those of the interfaces
  document every operation.  The end of the comment stands
  in its last line alone exactly if neither the documentation
  nor the name of the operation holds one.
-/
theorem generate_documentation
    {s : Service}
    {emitter : Emitter}
    {files : List GeneratedFile}
    (hFiles : generate s emitter = .ok files)
    (flavour : Flavour)
    {o : Operation}
    (hOperation : o ∈ s.operations.values) :
    ∃ declare n types block,
      let f := emitter.sourceFile
        s.metadata.clientPackageName
        (declare flavour.interfaceRole)
      Family s emitter files declare ∧
        ⟨f.path, f.render⟩ ∈ files ∧
        Names.ofService s = .ok n ∧
        OperationTypes.Matches n o types ∧
        Documents f (declaredOperation flavour types) block ∧
        (Sealed block ↔ ¬BreaksOut o) := by
  rcases exists_parts_of_generate hFiles with
    ⟨p, hParts, hFamily⟩
  rcases hParts.exists_types hOperation with
    ⟨types, hTypes, hMatches⟩
  rcases exists_documents flavour hTypes emitter
      s.metadata.clientPackageName with
    ⟨block, hDocuments, hSealed⟩
  rw [hMatches.operation] at hSealed
  exact ⟨Role.declare p, p.strategy.names, types, block,
    hFamily, hFamily.mem_files _, hParts.strategy_eq.1,
    hMatches, hDocuments, hSealed⟩

/-
  A service with two documented operations, one of which has
  stars and slashes in its documentation, but never a slash
  behind a star.
-/
def documentedShop : Service :=
  { bookshop with
    operations :=
      OrderedMap.ofList
        [("Order",
          { Operation.named "Order" with
            documentation := some "Opens /* with **\n/." }),
          ("Cancel",
            { Operation.named "Cancel" with
              documentation := some "Ends */ early." })] }

/- Its clients are generated. -/
theorem exists_generate_documentedShop :
    ∃ files,
      generate documentedShop Emitter.standard = .ok files :=
  (checks_generate documentedShop
    Emitter.standard).exists_ok_iff.mpr (by decide)

/- The first operation stays inside its comment. -/
theorem generate_documentation_documentedShop :
    ∃ files declare types block,
      generate documentedShop Emitter.standard = .ok files ∧
        Family documentedShop Emitter.standard files declare ∧
        types.operation.name = "Order" ∧
        Documents
          (Emitter.standard.sourceFile "com.example.bookshop"
            (declare .asyncInterface))
          (declaredOperation .async types) block ∧
        Sealed block := by
  rcases exists_generate_documentedShop with ⟨files, hFiles⟩
  rcases generate_documentation hFiles .async
      (o := { Operation.named "Order" with
        documentation := some "Opens /* with **\n/." })
      (by decide) with
    ⟨declare, n, types, block, hFamily, _, _, hMatches,
      hDocuments, hSealed⟩
  exact ⟨files, declare, types, block, hFiles, hFamily,
    by rw [hMatches.operation]; rfl, hDocuments,
    hSealed.mpr (by decide)⟩

/- The second operation ends its comment early. -/
theorem exists_unsealed_documentation :
    ∃ files declare types block,
      generate documentedShop Emitter.standard = .ok files ∧
        Family documentedShop Emitter.standard files declare ∧
        types.operation ∈ documentedShop.operations.values ∧
        Documents
          (Emitter.standard.sourceFile "com.example.bookshop"
            (declare .syncInterface))
          (declaredOperation .sync types) block ∧
        ¬Sealed block := by
  rcases exists_generate_documentedShop with ⟨files, hFiles⟩
  rcases exists_parts_of_generate hFiles with
    ⟨p, hParts, hFamily⟩
  rcases hParts.exists_types
      (o := { Operation.named "Cancel" with
        documentation := some "Ends */ early." })
      (by decide) with
    ⟨types, hTypes, hMatches⟩
  rcases exists_documents .sync hTypes
      Emitter.standard "com.example.bookshop" with
    ⟨block, hDocuments, hSealed⟩
  have hOperation := hMatches.operation
  refine ⟨files, Role.declare p, types, block, hFiles, hFamily,
    by rw [hOperation]; decide, hDocuments, ?_⟩
  rw [hSealed, hOperation]
  decide

end ClientGen.Client
