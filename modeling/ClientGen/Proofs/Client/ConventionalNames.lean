import ClientGen.Proofs.Client.Declared
import ClientGen.Proofs.Client.Requirements
import ClientGen.Proofs.Java.DerivedNames

/-
  Operations with the names that are derived from their own.

  Main declarations include:
    * `isIdentifier_conventional`
    * `Names.operation_of_isKeyword`
    * `Names.operation_named`

  Of the derived names only that of the method can be one
  that is refused, for the others end in a word of their own.
-/

namespace ClientGen.Client

open ClientGen.Java ClientGen.Model

variable {name : String}

/- Request and response are identifiers, and so is a request. -/
theorem isIdentifier_conventional
    (hName : isIdentifier name = true) :
    isIdentifier (name ++ "Request") = true ∧
      isIdentifier (name ++ "Response") = true ∧
      isIdentifier (variableName (name ++ "Request")) =
        true := by
  have hRequest : isIdentifier (name ++ "Request") = true :=
    isIdentifier_suffix hName (by decide) (by decide)
  exact ⟨hRequest,
    isIdentifier_suffix hName (by decide) (by decide),
    isIdentifier_variableName
      (hasIdentifierForm_of_isIdentifier hRequest)⟩

/- A method is called by an identifier unless by a keyword. -/
theorem isIdentifier_uncapitalize
    (hName : isIdentifier name = true)
    (hWord : isKeyword (uncapitalize name) = false) :
    isIdentifier (uncapitalize name) = true := by
  rw [isIdentifier, hasIdentifierForm_uncapitalize
    (hasIdentifierForm_of_isIdentifier hName), hWord]
  rfl

/- That of a method is the first name looked at. -/
theorem Names.operation_of_isKeyword
    (n : Names)
    (hWord : isKeyword (uncapitalize name) = true) :
    n.operation (Operation.named name) =
      .error
        (.notIdentifier "method name" (uncapitalize name)) := by
  have hMethod : isIdentifier (uncapitalize name) = false := by
    rw [isIdentifier, hWord, Bool.not_true, Bool.and_false]
  rw [(n.checks_operation (Operation.named name)).eq_error_iff]
  exact Requirement.checkAll_cons_of_fails hMethod _

/-
  The operation of an identifier has a request whose name is
  an identifier, and no ending has to be added for it.  The
  operation is accepted unless the name of its method is a
  keyword, which has no ending added: then that name is what
  is refused.
-/
theorem Names.operation_named
    (n : Names)
    (hName : isIdentifier name = true) :
    isIdentifier (variableName (name ++ "Request")) = true ∧
      variableName (name ++ "Request") =
        uncapitalize (name ++ "Request") ∧
      (isKeyword (uncapitalize name) = false →
        isIdentifier (uncapitalize name) = true ∧
          ∃ types,
            n.operation (Operation.named name) = .ok types ∧
              types.Matches n (Operation.named name)) ∧
      (isKeyword (uncapitalize name) = true →
        n.operation (Operation.named name) =
          .error
            (.notIdentifier "method name"
              (uncapitalize name))) := by
  rcases isIdentifier_conventional hName with
    ⟨hRequest, hResponse, hVariable⟩
  refine ⟨hVariable, ?_, ?accepted,
    n.operation_of_isKeyword⟩
  · have hSome : name ≠ "" := by
      rintro rfl
      cases hName
    exact variableName_append hSome (by decide) (by decide)
  case accepted =>
    intro hWord
    have hMethod := isIdentifier_uncapitalize hName hWord
    have hAll :
        ∀ r ∈ operationRequirements (Operation.named name),
          r.holds = true := by
      simp [operationRequirements, identifierRequirement,
        Operation.named, hMethod, hVariable, hRequest,
        hResponse]
    rcases (n.checks_operation
        (Operation.named name)).exists_ok_iff.mpr hAll with
      ⟨types, hTypes⟩
    exact ⟨hMethod, types, hTypes,
      matches_of_operation hTypes⟩

/- The bookshop can find its books, but may not import any. -/
theorem Names.operation_named_bookshop :
    ∃ n,
      Names.ofService bookshop = .ok n ∧
        isIdentifier "FindBooks" = true ∧
        isIdentifier "Import" = true ∧
        (∃ types,
          n.operation (Operation.named "FindBooks") =
              .ok types ∧
            types.Matches n (Operation.named "FindBooks")) ∧
        n.operation (Operation.named "Import") =
          .error (.notIdentifier "method name" "import") := by
  have hFind : isIdentifier "FindBooks" = true := by decide
  have hImport : isIdentifier "Import" = true := by decide
  have hFree : isKeyword (uncapitalize "FindBooks") = false := by
    decide +kernel
  have hWord : uncapitalize "Import" = "import" := by
    decide +kernel
  refine ⟨_, rfl, hFind, hImport, ?found, ?refused⟩
  case found =>
    exact ((Names.operation_named _ hFind).2.2.1 hFree).2
  case refused =>
    rw [← hWord]
    exact (Names.operation_named _ hImport).2.2.2
      (by rw [hWord]; decide)

/- A method that would be called default is refused. -/
theorem exists_refused_operation :
    ∃ n,
      Names.ofService bookshop = .ok n ∧
        isIdentifier "Default" = true ∧
        n.operation (Operation.named "Default") =
          .error (.notIdentifier "method name" "default") := by
  have hWord : uncapitalize "Default" = "default" := by
    decide +kernel
  refine ⟨_, rfl, by decide, ?_⟩
  rw [← hWord]
  apply Names.operation_of_isKeyword
  rw [hWord]
  decide

end ClientGen.Client
