import ClientGen.Client.Assembly.Strategy
import ClientGen.Proofs.Client.Checks
import ClientGen.Proofs.Code.Steps

/-
  What a protocol adds to a client is put together without
  an error.

  Main declarations include:
    * `Assembly.executionCall_eq`
    * `Assembly.metadataSettings_eq`
    * `Assembly.Xml.initializer_eq`
    * `Assembly.DryRun.method_eq`
    * `Assembly.Strategy.initializer_eq`
    * `Assembly.Strategy.responseHandler_eq`
    * `Assembly.Strategy.executionCall_eq`

  Each format fits its arguments and writes what the plain
  description says.  What is left of an assembly are the
  names it checks.

  Every literal is rewritten to its characters before `simp`
  reads the formats, since evaluating a literal takes time
  that grows with the square of its length.
-/

namespace ClientGen.Client.Assembly

open ClientGen.Java ClientGen.Model

------------------------------------------------------------
-- Statements That Protocols Share
------------------------------------------------------------

/- The call of an operation is written as described. -/
theorem executionCall_eq
    (types : OperationTypes)
    (envelope : Envelope)
    (argument : String) :
    executionCall types envelope argument =
      .ok (Code.ofParts
        (Client.executionCall types envelope argument)) := by
  apply Code.ofSteps_eq rfl
  simp [Client.executionCall, -String.reduceToList]
  repeat rw [String.toList_ofList]
  simp

/- So is the request for a handler of errors. -/
theorem delegatedErrorHandler_eq
    (error : ClassName) :
    delegatedErrorHandler error =
      .ok (Code.ofParts
        (Client.delegatedErrorHandler error)) := by
  apply Code.ofFormat_eq
  simp [Client.delegatedErrorHandler, -String.reduceToList]
  repeat rw [String.toList_ofList]
  simp

------------------------------------------------------------
-- Settings of Factories
------------------------------------------------------------

/- An exception is registered as described. -/
theorem errorRegistration_eq
    (e : ExceptionTypes) :
    errorRegistration e =
      .ok (Code.ofParts (Client.errorRegistration e)) := by
  apply Code.ofFormat_eq
  simp [Client.errorRegistration, -String.reduceToList]
  repeat rw [String.toList_ofList]
  simp

/- So is the type of contents, if there is one. -/
theorem contentTypeOverride_eq
    (s : Service) :
    contentTypeOverride s =
      .ok (s.metadata.contentType.map fun contentType =>
        Code.ofParts
          (Client.contentTypeOverride contentType)) := by
  have hEach :
      ∀ contentType : String,
        Code.ofFormat ".withContentTypeOverride($S)"
            [contentType] =
          .ok (Code.ofParts
            (Client.contentTypeOverride contentType)) := by
    intro contentType
    apply Code.ofFormat_eq
    simp [Client.contentTypeOverride, -String.reduceToList]
    repeat rw [String.toList_ofList]
    simp
  exact optionMapM_eq_map hEach s.metadata.contentType

/-
  All settings are written as described, once the names of
  the exceptions have been checked.
-/
theorem metadataSettings_eq
    (s : Service)
    (names : Names)
    (version : String)
    (supportsCbor supportsIon : Bool) :
    metadataSettings s names version supportsCbor
        supportsIon =
      (names.exceptions s).map fun exceptions =>
        let settings : JsonSettings := {
          version
          supportsCbor
          supportsIon
          baseException := names.baseException
          contentType := s.metadata.contentType
          exceptions }
        Code.join (settings.parts.map Code.ofParts) "\n" := by
  have hVersion :
      Code.ofFormat ".withProtocolVersion($S)" [version] =
        .ok (Code.ofParts [".withProtocolVersion(",
          quotedText version, ")"]) := by
    apply Code.ofFormat_eq
    simp [-String.reduceToList]
    repeat rw [String.toList_ofList]
    simp
  have hCbor :
      Code.ofFormat ".withSupportsCbor($L)"
          [boolText supportsCbor] =
        .ok (Code.ofParts [".withSupportsCbor(" ++
          boolText supportsCbor ++ ")"]) := by
    apply Code.ofFormat_eq
    simp [-String.reduceToList]
    repeat rw [String.toList_ofList]
    simp
  have hIon :
      Code.ofFormat ".withSupportsIon($L)"
          [boolText supportsIon] =
        .ok (Code.ofParts [".withSupportsIon(" ++
          boolText supportsIon ++ ")"]) := by
    apply Code.ofFormat_eq
    simp [-String.reduceToList]
    repeat rw [String.toList_ofList]
    simp
  have hBase :
      Code.ofFormat ".withBaseServiceExceptionClass($T.class)"
          [names.baseException] =
        .ok (Code.ofParts [".withBaseServiceExceptionClass(",
          names.baseException, ".class)"]) := by
    apply Code.ofFormat_eq
    simp [-String.reduceToList]
    repeat rw [String.toList_ofList]
    simp
  have hRegistrations :
      s.exceptions.mapM (fun shape => do
          let e ← names.exception shape
          errorRegistration e) =
        (names.exceptions s).map (List.map fun e =>
          Code.ofParts (Client.errorRegistration e)) := by
    apply mapM_eq_map
    intro shape
    cases names.exception shape with
    | error e => rfl
    | ok e =>
        simp only [errorRegistration_eq]
        rfl
  unfold metadataSettings
  rw [hVersion, hCbor, hIon, hBase, contentTypeOverride_eq]
  simp only [hRegistrations]
  cases names.exceptions s with
  | error e => rfl
  | ok exceptions =>
      cases s.metadata.contentType with
      | none =>
          simp [JsonSettings.parts, JsonSettings.required]
          rfl
      | some contentType =>
          simp [JsonSettings.parts, JsonSettings.required]
          rfl

------------------------------------------------------------
-- Factories
------------------------------------------------------------

namespace Factory

variable (f : Client.Factory)

/- The factory is made as described. -/
theorem initializer_eq
    (settings : JsonSettings) :
    initializer f
        (Code.join (settings.parts.map Code.ofParts) "\n") =
      .ok (f.initializer settings) := by
  apply Method.withSteps_eq rfl
  simp [JsonSettings.lines, -String.reduceToList]
  repeat rw [String.toList_ofList]
  simp

/- So are the handlers of responses. -/
theorem responseHandler_eq
    (s : Service)
    (types : OperationTypes) :
    responseHandler f s types =
      .ok (Code.ofParts (f.responseHandler s types)) := by
  apply Code.ofSteps_eq rfl
  simp [Client.Factory.responseHandler, -String.reduceToList]
  repeat rw [String.toList_ofList]
  simp

/- So is the method that makes handlers of errors. -/
theorem helper_eq :
    helper f = .ok f.helper := by
  have hBody :
      Code.ofSteps [helperStep f] =
        .ok (Client.Factory.helper f).body := by
    unfold helperStep
    cases hShapes : f.takesErrorShapes with
    | true =>
        apply Code.ofSteps_eq rfl
        simp [Client.Factory.errorShapes, hShapes,
          -String.reduceToList]
        repeat rw [String.toList_ofList]
        simp
    | false =>
        apply Code.ofSteps_eq rfl
        simp [Client.Factory.errorShapes, hShapes,
          -String.reduceToList]
        repeat rw [String.toList_ofList]
        simp
  exact Method.withSteps_ok hBody

end Factory

------------------------------------------------------------
-- Lists of Unmarshallers
------------------------------------------------------------

namespace Xml

/- Unmarshallers are added as described. -/
theorem writes_errorRegistrations
    (exceptions : List ExceptionTypes) :
    Step.Writes (exceptions.map errorRegistration)
      (Code.atoms
        (exceptions.flatMap Client.Xml.errorRegistration)) := by
  induction exceptions with
  | nil => exact ⟨rfl, rfl⟩
  | cons e exceptions ih =>
      have hFirst :
          Step.Writes [errorRegistration e]
            (Code.atoms (Client.Xml.errorRegistration e)) := by
        simp [errorRegistration, Client.Xml.errorRegistration,
          -String.reduceToList]
        repeat rw [String.toList_ofList]
        simp
      rw [List.flatMap_cons, Code.atoms_append]
      exact hFirst.append ih

/- They neither open nor close a block. -/
theorem depth_errorRegistrations
    (exceptions : List ExceptionTypes)
    (opened : Nat) :
    (exceptions.map errorRegistration).foldlM Step.depth
      opened = some opened := by
  induction exceptions with
  | nil => rfl
  | cons e exceptions ih => exact ih

/- The body of the method is built as described. -/
theorem registration_ok
    (names : Names)
    (exceptions : List ExceptionTypes) :
    Code.ofSteps (registration names exceptions) =
      .ok (Client.Xml.initializer names exceptions).body := by
  unfold registration
  apply Code.ofSteps_eq
  · rw [List.foldlM_append, List.foldlM_append]
    simp only [List.foldlM_cons, List.foldlM_nil, Step.depth,
      depth_errorRegistrations, Option.pure_def,
      Option.bind_eq_bind, Option.bind_some]
  · rw [List.append_assoc (_ ++ _), Code.atoms_append,
      Code.atoms_append]
    refine Step.Writes.append (.append ?_ ?_) ?_
    · simp [-String.reduceToList]
      repeat rw [String.toList_ofList]
      simp
    · exact writes_errorRegistrations exceptions
    · simp [-String.reduceToList]
      repeat rw [String.toList_ofList]
      simp

/-
  The list is made as described, once the names of the
  exceptions have been checked.
-/
theorem initializer_eq
    (s : Service)
    (names : Names) :
    initializer s names =
      (names.exceptions s).map
        (Client.Xml.initializer names) := by
  unfold initializer
  cases names.exceptions s with
  | error e => rfl
  | ok exceptions =>
      have hBuilt :=
        Method.withSteps_ok
          (m := {
            kind := .method initMethod
            modifiers := [.privateAccess]
            returns := Client.Xml.unmarshallerList })
          (registration_ok names exceptions)
      exact congrArg (Except.mapError GenerationError.code) hBuilt

/- The handler of a response is made as described. -/
theorem responseHandler_eq
    (types : OperationTypes) :
    responseHandler types =
      .ok (Code.ofParts
        (Client.Xml.responseHandler types)) := by
  apply Code.ofSteps_eq rfl
  simp [Client.Xml.responseHandler, -String.reduceToList]
  repeat rw [String.toList_ofList]
  simp

/- So is that of an error. -/
theorem errorHandler_eq :
    errorHandler =
      .ok (Code.ofParts Client.Xml.errorHandler) := by
  apply Code.ofFormat_eq
  simp [Client.Xml.errorHandler, -String.reduceToList]
  repeat rw [String.toList_ofList]
  simp

end Xml

------------------------------------------------------------
-- Dry Runs
------------------------------------------------------------

namespace DryRun

open Client.DryRun

/- What is written for one signal, after its first word. -/
def signalAtoms
    (names : Names)
    (signal : Signal) :
    List Code.Atom :=
  Code.atoms (signal.test ++ [.text " \x7b\n", .indent] ++
    (Statement.returnResult signal.wouldSucceed).parts names)

/- The first signal is tested as described. -/
theorem writes_firstSignal
    (names : Names)
    (signal : Signal) :
    Step.Writes (signalSteps names true signal)
      (signalAtoms names signal) := by
  simp [signalAtoms, signalSteps, condition, Signal.test,
    Statement.parts, -String.reduceToList]
  repeat rw [String.toList_ofList]
  simp

/- Every other one is tested if those before do not apply. -/
theorem writes_laterSignal
    (names : Names)
    (signal : Signal) :
    Step.Writes (signalSteps names false signal)
      (Code.atoms [.unindent, .text "\x7d else "] ++
        signalAtoms names signal) := by
  simp [signalAtoms, signalSteps, condition, Signal.test,
    Statement.parts, -String.reduceToList]
  repeat rw [String.toList_ofList]
  simp

/- All tests are written as described. -/
theorem writes_testSteps
    (names : Names)
    (first : Signal)
    (others : List Signal) :
    Step.Writes
      (testSteps names (first :: others) ++ [.endBlock])
      (Code.atoms (testParts names
        ((first :: others).map fun signal =>
          (signal, .returnResult signal.wouldSucceed)))) := by
  have hLater :
      ∀ (signal : Signal) (others : List Signal),
        ∃ after,
          Step.Writes
            (others.flatMap (signalSteps names false) ++
              [.endBlock]) after ∧
          signalAtoms names signal ++ after =
            Code.atoms (testParts names
              ((signal :: others).map fun signal =>
                (signal,
                  .returnResult signal.wouldSucceed))) := by
    intro signal others
    induction others generalizing signal with
    | nil =>
        refine ⟨_, ⟨rfl, rfl⟩, ?_⟩
        simp [signalAtoms, testParts]
    | cons next more ih =>
        rcases ih next with ⟨after, hWrites, hAtoms⟩
        refine ⟨Code.atoms [.unindent, .text "\x7d else "] ++
          signalAtoms names next ++ after, ?_, ?_⟩
        · rw [List.flatMap_cons, List.append_assoc]
          exact (writes_laterSignal names next).append hWrites
        · rw [List.append_assoc, hAtoms]
          simp [signalAtoms, testParts]
  rcases hLater first others with ⟨after, hWrites, hAtoms⟩
  rw [testSteps, List.append_assoc, ← hAtoms]
  exact (writes_firstSignal names first).append hWrites

/- The steps before the request is sent. -/
theorem writes_preparation :
    Step.Writes
      (preparation (Code.ofParts Client.Xml.errorHandler))
      (Code.atoms Client.DryRun.preparation) := by
  simp [preparation, Client.DryRun.preparation,
    -String.reduceToList]
  repeat rw [String.toList_ofList]
  simp

/- The steps that send the request. -/
theorem writes_execution :
    Step.Writes execution (Code.atoms executionParts) := by
  simp [execution, executionParts, -String.reduceToList]
  repeat rw [String.toList_ofList]
  simp

/- An error of the client is thrown as described. -/
theorem writes_throw
    (names : Names)
    (hasCause : Bool) :
    Step.Writes
      [.statement
        (if hasCause then "throw new $T($S, ase)"
          else "throw new $T($S)")
        [Sdk.amazonClientException, unrecognized]]
      (Code.atoms
        ((Statement.throwClientError unrecognized hasCause
          ).parts names)) := by
  cases hasCause with
  | true =>
      simp [Statement.parts, -String.reduceToList]
      repeat rw [String.toList_ofList]
      simp
  | false =>
      simp [Statement.parts, -String.reduceToList]
      repeat rw [String.toList_ofList]
      simp

/- The body of the method is built as described. -/
theorem steps_ok
    (names : Names) :
    Code.ofSteps
        (steps names (Code.ofParts Client.Xml.errorHandler)) =
      .ok (Client.DryRun.method names).body := by
  have hTry :
      Step.Writes [.beginBlock "try" []]
        (Code.atoms [.text "try", .text " \x7b\n", .indent]) := by
    simp
  have hCatch :
      Step.Writes
        [.nextBlock "catch ($T ase)"
          [Sdk.amazonServiceException]]
        (Code.atoms
          [.unindent, .text "\x7d ", .text "catch (",
            .type (.class Sdk.amazonServiceException),
            .text " ase)", .text " \x7b\n", .indent]) := by
    simp
  have hEnd :
      Step.Writes [.endBlock]
        (Code.atoms [.unindent, .text "\x7d\n"]) := by
    simp
  have hTests :=
    writes_testSteps names permitted [forbidden]
  have hWrites :=
    ((((((writes_preparation.append hTry).append
      writes_execution).append
      (writes_throw names false)).append hCatch).append
      hTests).append (writes_throw names true)).append hEnd
  apply Code.ofSteps_eq rfl
  simpa only [steps, program, signals, Statement.parts,
    allParts, followed, Code.atoms_append, Code.atoms_cons,
    Code.atoms_nil, List.append_assoc, List.cons_append,
    List.nil_append, List.append_nil, if_true, if_false,
    Bool.false_eq_true] using hWrites

/- So is the method. -/
theorem method_eq
    (names : Names) :
    method names = .ok (Client.DryRun.method names) := by
  unfold method
  rw [bind_eq_ok_iff]
  exact ⟨_, Xml.errorHandler_eq,
    Method.withSteps_ok (steps_ok names)⟩

end DryRun

------------------------------------------------------------
-- Strategies
------------------------------------------------------------

namespace Strategy

variable (t : Client.Strategy)

/- The method that gives the field its value is found. -/
theorem initializer_eq :
    initializer t = t.initializer := by
  unfold initializer Client.Strategy.initializer
  cases hFactory : t.factory? with
  | none => exact Xml.initializer_eq t.service t.names
  | some factory =>
      unfold settings Client.Strategy.settings
      cases t.jsonVersion with
      | error e => rfl
      | ok version =>
          simp only [bind, Except.bind, metadataSettings_eq]
          cases t.names.exceptions t.service with
          | error e => rfl
          | ok exceptions =>
              simp only [Except.map,
                Factory.initializer_eq]
              rfl

/- So is the method that makes handlers of errors. -/
theorem helper_eq :
    helper t = .ok t.helper := by
  unfold helper Client.Strategy.helper
  cases t.factory? with
  | none => rfl
  | some factory =>
      simp only [Option.mapM_some, Factory.helper_eq]
      rfl

/- So are the methods of this protocol alone. -/
theorem additional_eq :
    additional t = .ok t.additional := by
  unfold additional Client.Strategy.additional
  cases t.kind with
  | ec2 =>
      rw [DryRun.method_eq]
      rfl
  | json => rfl
  | queryXml => rfl
  | apiGateway => rfl

/-
  The handler of a response is made once the operation has
  been checked.
-/
theorem responseHandler_eq
    (o : Operation) :
    responseHandler t o =
      (t.names.operation o).map fun types =>
        Code.ofParts (t.responseHandler types) := by
  unfold responseHandler Client.Strategy.responseHandler
  cases t.names.operation o with
  | error e => rfl
  | ok types =>
      cases t.factory? with
      | none =>
          simp only [Xml.responseHandler_eq]
          rfl
      | some factory =>
          simp only [Factory.responseHandler_eq]
          rfl

/- The handler of an error is made in any case. -/
theorem errorHandler_eq :
    errorHandler t = .ok (Code.ofParts t.errorHandler) := by
  unfold errorHandler Client.Strategy.errorHandler
  cases t.factory? with
  | none => exact Xml.errorHandler_eq
  | some factory => exact delegatedErrorHandler_eq _

/- The call is made once the operation has been checked. -/
theorem executionCall_eq
    (o : Operation) :
    executionCall t o =
      (t.names.operation o).map fun types =>
        Code.ofParts (t.executionCall types) := by
  unfold executionCall Client.Strategy.executionCall
  cases t.names.operation o with
  | error e => rfl
  | ok types =>
      cases t.factory? with
      | none =>
          simp only [Assembly.executionCall_eq]
          rfl
      | some factory =>
          simp only [Assembly.executionCall_eq]
          rfl

end Strategy

end ClientGen.Client.Assembly
