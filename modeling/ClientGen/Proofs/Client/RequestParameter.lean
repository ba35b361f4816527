import ClientGen.Proofs.Client.Declared
import ClientGen.Proofs.Code.Variables

/-
  The request among the variables of an operation's method.

  Main declarations include:
    * `Flavour.taken`
    * `Strategy.uses_responseHandler`
    * `Strategy.uses_errorHandler`
    * `Strategy.uses_executionCall`
    * `hygienic_implementedOperation_iff`
    * `hygienic_delegatedOperation_iff`
    * `generate_requestParameter`
    * `exists_captured_requestParameter`

  The name of the request comes from the model, those of all
  other variables are fixed.  A model may choose one of them,
  and nothing keeps it from doing so.
-/

namespace ClientGen.Client

open ClientGen.Java ClientGen.Model Code

------------------------------------------------------------
-- Names That Are Taken
------------------------------------------------------------

/- The field that a strategy of some kind keeps. -/
def StrategyKind.fieldName : StrategyKind → String
  | .json => protocolFactoryField
  | .apiGateway => protocolFactoryField
  | .queryXml => exceptionUnmarshallersField
  | .ec2 => exceptionUnmarshallersField

/- The variables of an operation's method, the request apart. -/
def Flavour.taken
    (kind : StrategyKind) :
    Flavour → List String
  | .sync =>
      [responseHandlerVariable, errorHandlerVariable,
        clientHandlerField, kind.fieldName]
  | .async => [syncClientField, executorField]

------------------------------------------------------------
-- Statements of Factories
------------------------------------------------------------

/- A handler is declared, and asked for from the factory. -/
theorem Factory.uses_responseHandler
    (f : Factory)
    (s : Service)
    (types : OperationTypes) :
    Uses (f.responseHandler s types)
      [responseHandlerVariable, protocolFactoryField]
      [responseHandlerVariable] := by
  have hErased :
      ∀ isJson isStreaming : Bool,
        Uses
          (continued
            [.type .void,
              .text (" " ++ responseHandlerVariable ++ " = " ++
                protocolFactoryField ++
                ".createResponseHandler(\n")]
            [.text "new ", .type .void,
              .text ("().withPayloadJson(" ++ boolText isJson ++
                ").withHasStreamingSuccessResponse(" ++
                boolText isStreaming ++ "),\n"),
              .text "new ", .type .void, .text "());\n"])
          [responseHandlerVariable, protocolFactoryField]
          [responseHandlerVariable] := by
    decide +kernel
  exact .of_erased (hErased _ _)

/- A handler of errors is declared. -/
theorem uses_delegatedErrorHandler
    (error : ClassName) :
    Uses (delegatedErrorHandler error)
      [errorHandlerVariable] [errorHandlerVariable] := by
  have hErased :
      Uses
        (statement
          [.type .void,
            .text (" " ++ errorHandlerVariable ++ " = " ++
              createErrorHandlerMethod ++ "()")])
        [errorHandlerVariable] [errorHandlerVariable] := by
    decide +kernel
  exact .of_erased hErased

------------------------------------------------------------
-- Statements for XML
------------------------------------------------------------

/- A handler is declared and made on the spot. -/
theorem Xml.uses_responseHandler
    (types : OperationTypes) :
    Uses (responseHandler types)
      [responseHandlerVariable] [responseHandlerVariable] := by
  have hErased :
      Uses
        (continued
          [.type .void,
            .text (" " ++ responseHandlerVariable ++ " = new "),
            .type .void, .text "(\n"]
          [.text "new ", .type .void, .text "());\n"])
        [responseHandlerVariable]
        [responseHandlerVariable] := by
    decide +kernel
  exact .of_erased hErased

/- A handler of errors is made from the list. -/
theorem Xml.uses_errorHandler :
    Uses errorHandler
      [errorHandlerVariable, exceptionUnmarshallersField]
      [errorHandlerVariable] := by
  decide +kernel

------------------------------------------------------------
-- Execution
------------------------------------------------------------

/- The request is handed on as the last argument. -/
theorem uses_input
    (input : Identifier)
    (envelope : Envelope) :
    Uses
      [.text (".withInput(" ++ input.text ++ "))" ++
        envelope.unwrap ++ ";\n")]
      [input.text] [] := by
  have hText :
      ".withInput(" ++ input.text ++ "))" ++
          envelope.unwrap ++ ";\n" =
        ".withInput(" ++
          (input.text ++
            (")" ++ (")" ++ envelope.unwrap ++ ";\n"))) := by
    apply String.toList_injective
    simp
  have hOpening : Uses [.text ".withInput("] [] [] := by
    decide +kernel
  have hEnding :
      Uses [.text (")" ++ envelope.unwrap ++ ";\n")] [] [] := by
    cases envelope <;> decide +kernel
  have hRequest := Uses.argument input.valid hEnding
  rw [hText]
  exact Uses.append_text [] hOpening hRequest

/-
  Carrying out an operation mentions the request after all
  other variables.
-/
theorem uses_executionCall
    (types : OperationTypes)
    (envelope : Envelope)
    {argument : String}
    {names : List String}
    (hMarshaller :
      Uses
        [.text ".withMarshaller(new ", .type .void,
          .text ("(" ++ argument ++ "))\n")]
        names []) :
    Uses (executionCall types envelope argument)
      ([clientHandlerField] ++ names ++
        [responseHandlerVariable, errorHandlerVariable] ++
        [types.input.text])
      [] := by
  have hOpening :
      Uses
        [.text ("return " ++ clientHandlerField ++
            ".execute(new "),
          .type .void, .text "()\n", .indent, .indent]
        [clientHandlerField] [] := by
    decide +kernel
  have hHandlers :
      Uses
        [.text (".withResponseHandler(" ++
            responseHandlerVariable ++ ")\n"),
          .text (".withErrorResponseHandler(" ++
            errorHandlerVariable ++ ")\n")]
        [responseHandlerVariable, errorHandlerVariable] [] := by
    decide +kernel
  have hEnding : Uses [.unindent, .unindent] [] [] := by
    decide +kernel
  have hAll :=
    (((hOpening.append hMarshaller).append hHandlers).append
      (uses_input types.input envelope)).append hEnding
  rw [List.append_nil] at hAll
  exact .of_erased hAll

------------------------------------------------------------
-- Operations of Both Clients
------------------------------------------------------------

/- Space between statements is not read. -/
theorem uses_gap :
    Uses [.text "\n"] [] [] := by
  decide +kernel

/- What an operation uses that goes through a factory. -/
theorem uses_factoryOperation
    (factory : Factory)
    (s : Service)
    (types : OperationTypes) :
    Uses
      (factory.responseHandler s types ++ [.text "\n"] ++
        delegatedErrorHandler factory.error ++ [.text "\n"] ++
        executionCall types factory.envelope
          protocolFactoryField)
      ([responseHandlerVariable, protocolFactoryField,
        errorHandlerVariable, clientHandlerField,
        protocolFactoryField, responseHandlerVariable,
        errorHandlerVariable] ++ [types.input.text])
      [responseHandlerVariable, errorHandlerVariable] := by
  have hMarshaller :
      Uses
        [.text ".withMarshaller(new ", .type .void,
          .text ("(" ++ protocolFactoryField ++ "))\n")]
        [protocolFactoryField] [] := by
    decide +kernel
  have hHandlers :=
    ((factory.uses_responseHandler s types).append
      uses_gap).append
      (uses_delegatedErrorHandler factory.error)
  exact (hHandlers.append uses_gap).append
    (uses_executionCall types factory.envelope hMarshaller)

/- What an operation uses that is answered in XML. -/
theorem Xml.uses_operation
    (types : OperationTypes) :
    Uses
      (responseHandler types ++ [.text "\n"] ++
        errorHandler ++ [.text "\n"] ++
        executionCall types .wrapped "")
      ([responseHandlerVariable, errorHandlerVariable,
        exceptionUnmarshallersField, clientHandlerField,
        responseHandlerVariable, errorHandlerVariable] ++
        [types.input.text])
      [responseHandlerVariable, errorHandlerVariable] := by
  have hMarshaller :
      Uses
        [.text ".withMarshaller(new ", .type .void,
          .text ("(" ++ "" ++ "))\n")]
        [] [] := by
    decide +kernel
  have hHandlers :=
    ((uses_responseHandler types).append uses_gap).append
      uses_errorHandler
  exact (hHandlers.append uses_gap).append
    (uses_executionCall types .wrapped hMarshaller)

/-
  An operation mentions the request last, and before it the
  names that are taken.
-/
theorem uses_implementedOperation
    (t : Strategy)
    (types : OperationTypes) :
    ∃ before,
      (implementedOperation t types).body.bareNames =
          before ++ [types.input.text] ∧
        (implementedOperation t types).body.locals =
          [responseHandlerVariable, errorHandlerVariable] ∧
        ∀ name, name ∈ before ↔
          name ∈ Flavour.sync.taken t.kind := by
  have hFactory :
      ∀ name,
        name ∈ [responseHandlerVariable, protocolFactoryField,
          errorHandlerVariable, clientHandlerField,
          protocolFactoryField, responseHandlerVariable,
          errorHandlerVariable] ↔
        name ∈ [responseHandlerVariable, errorHandlerVariable,
          clientHandlerField, protocolFactoryField] := by
    intro name
    simp only [List.mem_cons, List.not_mem_nil, or_false]
    tauto
  have hXml :
      ∀ name,
        name ∈ [responseHandlerVariable, errorHandlerVariable,
          exceptionUnmarshallersField, clientHandlerField,
          responseHandlerVariable, errorHandlerVariable] ↔
        name ∈ [responseHandlerVariable, errorHandlerVariable,
          clientHandlerField, exceptionUnmarshallersField] := by
    intro name
    simp only [List.mem_cons, List.not_mem_nil, or_false]
    tauto
  rcases t with ⟨kind, s, names⟩
  cases kind with
  | json =>
      have hUses := uses_factoryOperation .shared s types
      exact ⟨_, hUses.of_code.1, hUses.of_code.2, hFactory⟩
  | apiGateway =>
      have hUses :=
        uses_factoryOperation (.ofGateway names) s types
      exact ⟨_, hUses.of_code.1, hUses.of_code.2, hFactory⟩
  | queryXml =>
      have hUses := Xml.uses_operation types
      exact ⟨_, hUses.of_code.1, hUses.of_code.2, hXml⟩
  | ec2 =>
      have hUses := Xml.uses_operation types
      exact ⟨_, hUses.of_code.1, hUses.of_code.2, hXml⟩

/- The call of the other client is opened. -/
theorem uses_delegation
    (method : Identifier) :
    Uses
      [.text "return ",
        .type (.class Sdk.completableFuture),
        .text (".supplyAsync(() -> " ++ syncClientField ++
          "." ++ (method.text ++ "("))]
      [syncClientField] [] := by
  have hReturn : Reads [.text "return "] [.word "return"] :=
    rfl
  have hSupply :
      Reads
        [.text (".supplyAsync(() -> " ++ syncClientField ++
          ".")]
        [.symbol '.', .word "supplyAsync", .symbol '(',
          .symbol '(', .symbol ')', .symbol '-', .symbol '>',
          .word syncClientField, .symbol '.'] :=
    rfl
  have hCall : Reads [.text "("] [.symbol '('] :=
    rfl
  have hMethod :=
    reads_name method.valid (by decide) hCall
  refine ⟨_, .cons hReturn (.cons (reads_type _)
    (hSupply.text_append hMethod)), ?_, ?_, rfl⟩
  · simp [EndInMark, Token.isMark]
  · -- The method is a member of the client, no variable.
    rfl

/- An operation of futures hands the request on. -/
theorem uses_delegatedOperation
    (types : OperationTypes) :
    (delegatedOperation types).body.bareNames =
        [syncClientField] ++
          types.input.text :: [executorField] ∧
      (delegatedOperation types).body.locals = [] := by
  have hText :
      ".supplyAsync(() -> " ++ syncClientField ++ "." ++
          types.method.text ++ "(" ++ types.input.text ++
          "), " ++ executorField ++ ")" =
        ".supplyAsync(() -> " ++ syncClientField ++ "." ++
            (types.method.text ++ "(") ++
          (types.input.text ++
            (")" ++ (", " ++ executorField ++ ")"))) := by
    apply String.toList_injective
    simp [executorField]
  have hExecutor :
      Uses [.text (", " ++ executorField ++ ")")]
        [executorField] [] := by
    decide +kernel
  have hEnding : Uses [.text ";\n"] [] [] := by
    decide +kernel
  have hRequest := Uses.argument types.input.valid hExecutor
  have hCall :=
    (Uses.append_text [_, _] (uses_delegation types.method)
      hRequest).append hEnding
  rw [← hText] at hCall
  exact hCall.of_code

------------------------------------------------------------
-- Hygiene
------------------------------------------------------------

/- The names of the fields of a type. -/
def fieldNames
    (d : TypeDecl) :
    List String :=
  d.fields.map (·.name)

/- The client of a flavour has its role in the family. -/
def Flavour.clientRole : Flavour → Role
  | .sync => .syncClient
  | .async => .asyncClient

/- An operation as the client of a flavour carries it out. -/
def Flavour.carriedOut
    (t : Strategy)
    (types : OperationTypes) :
    Flavour → Method
  | .sync => implementedOperation t types
  | .async => delegatedOperation types

/- The clients carry out every operation. -/
theorem carriedOut_mem_methods
    {p : SyncParts}
    (flavour : Flavour)
    {types : OperationTypes}
    (hTypes : types ∈ p.operations) :
    flavour.carriedOut p.strategy types ∈
      (flavour.clientRole.declare p).methods := by
  cases flavour with
  | sync =>
      have hOperation := List.mem_map_of_mem
        (f := implementedOperation p.strategy) hTypes
      simp only [Flavour.clientRole, Role.declare,
        SyncParts.declaration, SyncParts.methods,
        List.mem_append]
      exact .inl (.inl (.inl (.inl (.inl (.inl
        (.inr hOperation))))))
  | async =>
      have hOperation := List.mem_map_of_mem
        (f := delegatedOperation) hTypes
      simp only [Flavour.clientRole, Role.declare,
        asyncClient, List.mem_append]
      exact .inl (.inr hOperation)

/- The client keeps what its operations mention. -/
theorem fields_syncClient
    (p : SyncParts) :
    clientHandlerField ∈
        fieldNames (Role.syncClient.declare p) ∧
      p.strategy.kind.fieldName ∈
        fieldNames (Role.syncClient.declare p) := by
  have hKind :
      p.strategy.field.name = p.strategy.kind.fieldName := by
    unfold Strategy.field Strategy.factory?
    cases p.strategy.kind <;> rfl
  rw [← hKind]
  simp [fieldNames, Role.declare, SyncParts.declaration,
    SyncParts.fields, syncFields, privateField, Field.plain]

/- The request is safe unless its name is taken. -/
theorem hygienic_carriedOut_iff
    (p : SyncParts)
    (flavour : Flavour)
    (types : OperationTypes) :
    (flavour.carriedOut p.strategy types).Hygienic
        (fieldNames (flavour.clientRole.declare p)) ↔
      types.input.text ∉ flavour.taken p.strategy.kind := by
  cases flavour with
  | sync =>
      rcases uses_implementedOperation p.strategy types with
        ⟨before, hNames, hLocals, hBefore⟩
      rcases fields_syncClient p with ⟨hHandler, hField⟩
      have hTaken :
          ∀ name, name ∈ before ++ [] ↔
            name ∈ Flavour.sync.taken p.strategy.kind := by
        simpa using hBefore
      have hIff := Method.hygienic_iff
        (m := implementedOperation p.strategy types)
        (p := types.parameter) rfl hNames
        (by
          intro name hName
          rw [hLocals] at hName
          rw [hTaken]
          exact List.mem_append_left
            [clientHandlerField, p.strategy.kind.fieldName]
            hName)
        (by
          intro name hName
          rw [hTaken] at hName
          rw [hLocals]
          simp only [Flavour.taken, List.mem_cons,
            List.not_mem_nil, or_false] at hName ⊢
          rcases hName with rfl | rfl | rfl | rfl
          · exact .inl (.inl rfl)
          · exact .inl (.inr rfl)
          · exact .inr hHandler
          · exact .inr hField)
      rw [hTaken] at hIff
      exact hIff
  | async =>
      rcases uses_delegatedOperation types with
        ⟨hNames, hLocals⟩
      exact Method.hygienic_iff
        (m := delegatedOperation types)
        (p := types.parameter) rfl hNames
        (by simp [hLocals])
        (fun name hName => .inr hName)

/-
  Whenever clients are generated, the request of an operation
  is safe in its method exactly if the model does not give it
  the name of one of the other variables there: of a local
  one or a field of the client, which depends on the protocol
  where the client answers at once.
-/
theorem generate_requestParameter
    {s : Service}
    {emitter : Emitter}
    {files : List GeneratedFile}
    (hFiles : generate s emitter = .ok files)
    {o : Operation}
    (hOperation : o ∈ s.operations.values) :
    ∃ declare t types,
      Family s emitter files declare ∧
        Strategy.resolve s.protocol s = .ok t ∧
        OperationTypes.Matches t.names o types ∧
        ∀ flavour : Flavour,
          let d := declare flavour.clientRole
          flavour.carriedOut t types ∈ d.methods ∧
            ((flavour.carriedOut t types).Hygienic
                (fieldNames d) ↔
              o.input.name ∉ flavour.taken
                (StrategyKind.ofProtocol s.protocol)) := by
  rcases exists_parts_of_generate hFiles with
    ⟨p, hParts, hFamily⟩
  rcases hParts.exists_types hOperation with
    ⟨types, hTypes, hMatches⟩
  have hKind :
      p.strategy.kind = StrategyKind.ofProtocol s.protocol := by
    rw [hParts.strategy_eq.2]
  refine ⟨Role.declare p, p.strategy, types, hFamily,
    hParts.resolved, hMatches, ?_⟩
  intro flavour
  have hIff := hygienic_carriedOut_iff p flavour types
  rw [hMatches.input, hKind] at hIff
  exact ⟨carriedOut_mem_methods flavour hTypes, hIff⟩

/-
  A service for JSON with an operation whose request has a
  name that is only taken for XML, and one whose request has
  the name of a local variable.
-/
def borrowedNames : Service :=
  { bookshop with
    operations :=
      OrderedMap.ofList
        [("Order",
          { Operation.named "Order" with
            input :=
              ⟨exceptionUnmarshallersField, "OrderRequest"⟩ }),
          ("Cancel",
            { Operation.named "Cancel" with
              input :=
                ⟨responseHandlerVariable, "CancelRequest"⟩ })] }

/- Its clients are generated. -/
theorem exists_generate_borrowedNames :
    ∃ files,
      generate borrowedNames Emitter.standard = .ok files :=
  (checks_generate borrowedNames
    Emitter.standard).exists_ok_iff.mpr (by decide)

/- The first request is safe in both clients. -/
theorem generate_requestParameter_borrowedNames :
    ∃ files declare t types,
      generate borrowedNames Emitter.standard = .ok files ∧
        Family borrowedNames Emitter.standard files declare ∧
        types.operation.name = "Order" ∧
        ∀ flavour : Flavour,
          (flavour.carriedOut t types).Hygienic
            (fieldNames (declare flavour.clientRole)) := by
  rcases exists_generate_borrowedNames with ⟨files, hFiles⟩
  rcases generate_requestParameter hFiles
      (o := { Operation.named "Order" with
        input :=
          ⟨exceptionUnmarshallersField, "OrderRequest"⟩ })
      (by decide) with
    ⟨declare, t, types, hFamily, _, hMatches, hFlavours⟩
  refine ⟨files, declare, t, types, hFiles, hFamily,
    by rw [hMatches.operation]; rfl, ?_⟩
  intro flavour
  refine (hFlavours flavour).2.mpr ?_
  cases flavour <;> decide

/- The second is taken for the handler of the response. -/
theorem exists_captured_requestParameter :
    ∃ files declare t types,
      generate borrowedNames Emitter.standard = .ok files ∧
        Family borrowedNames Emitter.standard files declare ∧
        types.operation ∈ borrowedNames.operations.values ∧
        implementedOperation t types ∈
          (declare .syncClient).methods ∧
        ¬(implementedOperation t types).Hygienic
          (fieldNames (declare .syncClient)) := by
  rcases exists_generate_borrowedNames with ⟨files, hFiles⟩
  rcases exists_parts_of_generate hFiles with
    ⟨p, hParts, hFamily⟩
  rcases hParts.exists_types
      (o := { Operation.named "Cancel" with
        input := ⟨responseHandlerVariable, "CancelRequest"⟩ })
      (by decide) with
    ⟨types, hTypes, hMatches⟩
  have hOperation := hMatches.operation
  have hInput := hMatches.input
  refine ⟨files, Role.declare p, p.strategy, types, hFiles,
    hFamily, by rw [hOperation]; decide,
    carriedOut_mem_methods .sync hTypes, ?_⟩
  have hIff := hygienic_carriedOut_iff p .sync types
  refine fun hHygienic => hIff.mp hHygienic ?_
  rw [hInput]
  exact List.mem_cons_self

end ClientGen.Client
