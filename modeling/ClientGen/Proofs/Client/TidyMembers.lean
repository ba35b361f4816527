import ClientGen.Proofs.Client.LexicalSafety
import ClientGen.Proofs.Client.MemberForm
import ClientGen.Proofs.Java.TidyFiles

/-
  The members of all generated types leave no blanks at the
  ends of their lines.

  Main declarations include:
    * `TidyService`
    * `tidyText_operationJavadoc`
    * `isTidy_implementedOperation`
    * `DryRun.isTidy_method`
    * `isTidy_serviceDefaults`
    * `Role.isTidy_declare`

  Texts of a model stand in literals, or in comments, or are
  names.  Only the expression for connections is written out
  as it is.
-/

namespace ClientGen.Client

open ClientGen.Java ClientGen.Java.Code ClientGen.Model
open ClientGen.Text

variable {n : Names}
variable {types : OperationTypes}

------------------------------------------------------------
-- Texts of Models
------------------------------------------------------------

/-
  An operation whose name is on one line, and in whose
  documentation no line ends in a blank.
-/
structure TidyOperation (o : Operation) : Prop where
  name : '\n' ∉ o.name.toList
  documentation :
    ∀ text ∈ o.documentation, TrimmedLines text.toList

/-
  A service all of whose operations are like that, with an
  expression for connections, if any, that is on one line.
-/
structure TidyService (s : Service) : Prop where
  operations : ∀ o ∈ s.operations.values, TidyOperation o
  httpConfig :
    ∀ expression ∈ s.customization.httpConfig,
      '\n' ∉ expression.toList

/- An identifier is on one line. -/
theorem Identifier.newline_not_mem
    (i : Identifier) :
    '\n' ∉ i.text.toList :=
  newline_not_mem_of_isIdentifier i.valid

------------------------------------------------------------
-- Documentation
------------------------------------------------------------

/- A sentence is a line that does not end in a blank. -/
theorem trimmedLines_sentence
    {front ending : String}
    {c : Char}
    (hFront : '\n' ∉ front.toList)
    (hEnding : '\n' ∉ ending.toList)
    (hLast : ending.toList.getLast? = some c)
    (hFull : isBlank c = false) :
    TrimmedLines (front ++ ending).toList ∧
      (front ++ ending).toList.getLast? = some c := by
  have hSentence :
      (front ++ ending).toList.getLast? = some c := by
    rw [String.toList_append, List.getLast?_append, hLast]
    rfl
  refine ⟨trimmedLines_line ?_ ?_, hSentence⟩
  · rw [String.toList_append, List.mem_append, not_or]
    exact ⟨hFront, hEnding⟩
  · rw [trimEnd_eq_self_iff, hSentence]
    rintro d ⟨⟩
    exact hFull

/- What is said first of an operation ends with a word. -/
theorem trimmedLines_operationSummary
    {o : Operation}
    (hOperation : TidyOperation o) :
    TrimmedLines (operationSummary o).toList ∧
      ∃ c, (operationSummary o).toList.getLast? = some c ∧
        isBlank c = false := by
  have hInvoked :
      '\n' ∉ ("Invokes the " ++ o.name).toList := by
    simp [hOperation.name]
  have hSentence :=
    @trimmedLines_sentence _ " operation." '.' hInvoked
      (by simp) (by simp) (by decide)
  unfold operationSummary
  cases hText : o.documentation with
  | none => exact ⟨hSentence.1, '.', hSentence.2, by decide⟩
  | some text =>
      simp only [Option.map_some, Option.getD_some]
      split
      · exact ⟨hSentence.1, '.', hSentence.2, by decide⟩
      · rename_i hSome
        have hTrimmed :=
          (hOperation.documentation text hText).trim
        have hLast : (trim text.toList).getLast? ≠ none := by
          intro hNone
          rw [List.getLast?_eq_none_iff] at hNone
          apply hSome
          rw [trimmed, hNone]
        rcases Option.ne_none_iff_exists'.mp hLast with
          ⟨c, hC⟩
        rw [trimmed, String.toList_ofList]
        exact ⟨hTrimmed, c, hC, trimEnd_eq_self_iff.mp
          (trimEnd_trimEnd _) c hC⟩

/- What is said of its result is a sentence too. -/
theorem trimmedLines_result
    {operation : String}
    (hOperation : '\n' ∉ operation.toList)
    (flavour : Flavour) :
    TrimmedLines
      ("@return " ++
        flavour.resultJavadoc operation).toList := by
  cases flavour with
  | sync =>
      have hFront :
          '\n' ∉ ("@return " ++
            ("Result of the " ++ operation)).toList := by
        simp [hOperation]
      have hSentence :=
        @trimmedLines_sentence _
          " operation returned by the service." '.' hFront
          (by simp) (by simp) (by decide)
      rw [String.append_assoc] at hSentence
      exact hSentence.1
  | async =>
      have hFront :
          '\n' ∉ ("@return " ++
            ("A future completing with the result of the " ++
              operation)).toList := by
        simp [hOperation]
      have hSentence :=
        @trimmedLines_sentence _
          " operation returned by the service." '.' hFront
          (by simp) (by simp) (by decide)
      rw [String.append_assoc] at hSentence
      exact hSentence.1

/- The documentation of an operation is tidy. -/
theorem tidyText_operationJavadoc
    (flavour : Flavour)
    (hOperation : TidyOperation types.operation) :
    TidyText (operationJavadoc flavour types) := by
  have hName := hOperation.name
  have hInput := types.input.newline_not_mem
  have hRequest :
      '\n' ∉ ("@param " ++ types.input.text ++ " the " ++
        types.operation.name).toList := by
    simp [hInput, hName]
  have hSentence :=
    @trimmedLines_sentence _ " request" 't' hRequest
      (by simp) (by simp) (by decide)
  rcases trimmedLines_operationSummary hOperation with
    ⟨hSummary, c, hLast, hFull⟩
  -- An empty line and two others follow the summary.
  have hTags :=
    hSentence.1.append_cons hSentence.2 (by decide)
      (trimmedLines_result hName flavour)
  have hAll :=
    hSummary.append_cons hLast hFull hTags.newline_cons
  have hJavadoc :
      (operationJavadoc flavour types).toList =
        (operationSummary types.operation).toList ++
          '\n' :: '\n' ::
            (("@param " ++ types.input.text ++ " the " ++
                types.operation.name ++ " request").toList ++
              '\n' :: ("@return " ++ flavour.resultJavadoc
                types.operation.name).toList) := by
    simp [operationJavadoc]
  unfold TidyText
  rw [hJavadoc]
  exact hAll.trimEnd

------------------------------------------------------------
-- Interfaces
------------------------------------------------------------

/- An operation as an interface declares it. -/
theorem isTidy_declaredOperation
    (flavour : Flavour)
    (hOperation : TidyOperation types.operation) :
    (declaredOperation flavour types).IsTidy := by
  rw [Method.isTidy_iff]
  simp [declaredOperation,
    tidyText_operationJavadoc flavour hOperation]

/- The other methods of an interface. -/
theorem isTidy_builderFactory
    {flavour : Flavour}
    {javadoc : Option String}
    (hJavadoc : ∀ text ∈ javadoc, TidyText text) :
    (builderFactory n flavour javadoc).IsTidy := by
  rw [Method.isTidy_iff]
  simp [builderFactory]
  exact hJavadoc

theorem isTidy_clientFactory
    {flavour : Flavour}
    {javadoc : Option String}
    (hJavadoc : ∀ text ∈ javadoc, TidyText text) :
    (clientFactory n flavour javadoc).IsTidy := by
  rw [Method.isTidy_iff]
  simp [clientFactory]
  exact hJavadoc

@[simp]
theorem isTidy_metadataFactory
    (endpointPrefix : String) :
    (metadataFactory endpointPrefix).IsTidy := by
  rw [Method.isTidy_iff]
  simp [metadataFactory]

@[simp]
theorem isTidy_accessor
    (name : String)
    (returned : ClassName) :
    (accessor name returned).IsTidy := by
  rw [Method.isTidy_iff]
  simp [accessor, Code.empty]

/- The simple names of the types are on one line. -/
theorem newline_not_mem_simple
    (n : Names)
    (role : Role) :
    '\n' ∉ (role.className n).simple.toList := by
  rw [role.className_eq]
  exact newline_not_mem_of_isIdentifier
    (n.isIdentifier_simpleName role)

/- What is said of types is on one line. -/
theorem tidyText_builderFactoryJavadoc
    {self : String}
    (hSelf : '\n' ∉ self.toList) :
    TidyText (builderFactoryJavadoc self) := by
  apply tidyText_of_newline_not_mem
  unfold builderFactoryJavadoc link
  rw [String.toList_append, String.toList_append,
    String.toList_append]
  simp [hSelf]

theorem tidyText_clientFactoryJavadoc
    {self : String}
    (hSelf : '\n' ∉ self.toList) :
    TidyText (clientFactoryJavadoc self) := by
  apply tidyText_of_newline_not_mem
  simp [-String.reduceAppend, clientFactoryJavadoc, link,
    hSelf]

/- The interface of clients. -/
theorem isTidy_syncInterface
    {s : Service}
    {operations : List OperationTypes}
    (hOperations :
      ∀ types ∈ operations, TidyOperation types.operation)
    (presigners : Option ClassName) :
    (syncInterface s n operations presigners).IsTidy where
  javadoc := by
    rintro text ⟨⟩
    apply tidyText_of_newline_not_mem
    simp [n.service.newline_not_mem]
  fields := by simp [syncInterface]
  methods := by
    have hSelf := newline_not_mem_simple n .syncInterface
    have hBuilder :
        (builderFactory n .sync (some (builderFactoryJavadoc
          n.syncInterface.simple))).IsTidy := by
      apply isTidy_builderFactory
      rintro text ⟨⟩
      exact tidyText_builderFactoryJavadoc hSelf
    have hClient :
        (clientFactory n .sync (some (clientFactoryJavadoc
          n.syncInterface.simple))).IsTidy := by
      apply isTidy_clientFactory
      rintro text ⟨⟩
      exact tidyText_clientFactoryJavadoc hSelf
    have hDeclared :
        ∀ types ∈ operations,
          (declaredOperation .sync types).IsTidy :=
      fun types hMem =>
        isTidy_declaredOperation .sync
          (hOperations types hMem)
    cases hWaiters : s.hasWaiters <;>
      simpa [syncInterface, hWaiters, or_imp, forall_and]
        using ⟨hBuilder, hClient, hDeclared⟩

/- That of clients that return futures. -/
theorem isTidy_asyncInterface
    {operations : List OperationTypes}
    (hOperations :
      ∀ types ∈ operations, TidyOperation types.operation) :
    (asyncInterface n operations).IsTidy where
  javadoc := by
    rintro text ⟨⟩
    apply tidyText_of_newline_not_mem
    simp [n.service.newline_not_mem]
  fields := by simp [asyncInterface]
  methods := by
    have hDeclared :
        ∀ types ∈ operations,
          (declaredOperation .async types).IsTidy :=
      fun types hMem =>
        isTidy_declaredOperation .async
          (hOperations types hMem)
    have hBuilder :
        (builderFactory n .async none).IsTidy :=
      isTidy_builderFactory (by simp)
    have hClient : (clientFactory n .async none).IsTidy :=
      isTidy_clientFactory (by simp)
    simpa [asyncInterface]
      using ⟨hBuilder, hClient, hDeclared⟩

------------------------------------------------------------
-- Members of All Clients
------------------------------------------------------------

/- What sets a field is on a line if the value is. -/
@[simp]
theorem tidyParts_assign
    {name : String}
    {value : List Part}
    (hName : '\n' ∉ name.toList)
    (hValue : InLine value) :
    TidyParts (assign name value) := by
  simp [assign, hName, hValue]

@[simp]
theorem isTidy_protectedConstructor
    {parameters : List Parameter}
    {body : List Part}
    (hBody : TidyParts body) :
    (protectedConstructor parameters body).IsTidy := by
  rw [Method.isTidy_iff]
  simp [protectedConstructor, hBody]

/- Both constructors of a client. -/
theorem isTidy_clientConstructors
    {params : ClassName}
    {advanced : Option ClassName}
    {body : List Part}
    (hBody : TidyParts body) :
    ∀ m ∈ clientConstructors params advanced body,
      m.IsTidy := by
  cases advanced <;>
    simp [clientConstructors, clientParamsName, hBody]

@[simp]
theorem isTidy_implemented
    {name : String}
    {returned : TypeName}
    {parameters : List Parameter}
    {body : List Part}
    (hBody : TidyParts body) :
    (implemented name returned parameters body).IsTidy := by
  rw [Method.isTidy_iff]
  simp [implemented, hBody]

theorem isTidy_closing
    {name : String}
    (hName : '\n' ∉ name.toList) :
    (closing name).IsTidy := by
  rw [Method.isTidy_iff]
  simp [closing, implemented, hName]

------------------------------------------------------------
-- Statements of Operations
------------------------------------------------------------

/- A truth value is a word. -/
@[simp]
theorem newline_not_mem_boolText
    (b : Bool) :
    '\n' ∉ (boolText b).toList := by
  cases b <;> simp [boolText]

/- The lines with the handlers are those of every call. -/
theorem tidyParts_handlerLines
    {rest : List Part}
    (hRest : TidyParts rest) :
    TidyParts
      (.text (".withResponseHandler(" ++
          responseHandlerVariable ++ ")\n") ::
        .text (".withErrorResponseHandler(" ++
          errorHandlerVariable ++ ")\n") ::
        rest) := by
  exact .line_cons
    (append_eq_ofList (append_eq_ofList rfl rfl) rfl)
    (by decide)
    (.line_cons
      (append_eq_ofList (append_eq_ofList rfl rfl) rfl)
      (by decide) hRest)

/- The last statement of an operation. -/
theorem tidyParts_executionCall
    (types : OperationTypes)
    (envelope : Envelope)
    {argument : String}
    (hArgument : '\n' ∉ argument.toList) :
    TidyParts (executionCall types envelope argument) := by
  have hUnwrap : '\n' ∉ envelope.unwrap.toList := by
    cases envelope <;> simp [Envelope.unwrap]
  have hMarshaller :
      TidyParts [".withMarshaller(new ", types.marshaller,
        .text ("(" ++ argument ++ "))\n")] :=
    @InLine.tidyParts_ended [_, _] ("(" ++ argument) "))\n"
      (by simp [hArgument]) (by decide)
  have hInput :
      TidyParts [.text (".withInput(" ++ types.input.text ++
        "))" ++ envelope.unwrap ++ ";\n")] :=
    @InLine.tidyParts_ended [] _ ";\n"
      (by simp [types.input.newline_not_mem, hUnwrap])
      (by decide)
  have hHead :
      TidyParts
        ["return " ++ clientHandlerField ++ ".execute(new ",
          .type (.generic Sdk.clientExecutionParams
            [.class types.request,
              envelope.handled types.response]), "()\n"] :=
    @InLine.closes [_, _] "()\n" (by simp [clientHandlerField])
      (by decide) |>.tidy
  exact TidyParts.continued hHead
    (hMarshaller.append (tidyParts_handlerLines hInput))

/- The handlers of responses and of errors. -/
theorem Strategy.tidyParts_responseHandler
    (t : Strategy)
    (types : OperationTypes) :
    TidyParts (t.responseHandler types) := by
  unfold responseHandler
  cases t.factory? with
  | none => exact TidyParts.continued rfl rfl
  | some f =>
      have hMetadata :
          ∀ isJson isStreaming,
            TidyParts
              ["new ", Sdk.jsonOperationMetadata,
                .text ("().withPayloadJson(" ++
                  boolText isJson ++
                  ").withHasStreamingSuccessResponse(" ++
                  boolText isStreaming ++ "),\n")] :=
        fun isJson isStreaming =>
          @InLine.tidyParts_ended [_, _] _ "),\n" (by simp)
            (by decide)
      exact TidyParts.continued rfl
        ((hMetadata _ _).append rfl)

theorem tidyParts_xmlErrorHandler :
    TidyParts Xml.errorHandler := by
  simp [-String.reduceAppend, Xml.errorHandler,
    errorHandlerVariable, exceptionUnmarshallersField]

theorem Strategy.tidyParts_errorHandler
    (t : Strategy) :
    TidyParts t.errorHandler := by
  unfold errorHandler
  cases t.factory? with
  | none => exact tidyParts_xmlErrorHandler
  | some f =>
      simp [-String.reduceAppend, delegatedErrorHandler,
        errorHandlerVariable, createErrorHandlerMethod]

/- The call of an operation. -/
theorem Strategy.tidyParts_executionCall
    (t : Strategy)
    (types : OperationTypes) :
    TidyParts (t.executionCall types) := by
  unfold executionCall
  cases t.factory? with
  | none =>
      exact Client.tidyParts_executionCall _ _ (by simp)
  | some f =>
      exact Client.tidyParts_executionCall _ _
        (by simp [protocolFactoryField])

/- An operation as the client carries it out. -/
theorem isTidy_implementedOperation
    (t : Strategy)
    (types : OperationTypes) :
    (implementedOperation t types).IsTidy := by
  have hGap : TidyParts [.text "\n"] := rfl
  apply isTidy_implemented
  exact ((((t.tidyParts_responseHandler types).append
    hGap).append t.tidyParts_errorHandler).append
    hGap).append (t.tidyParts_executionCall types)

------------------------------------------------------------
-- Members of a Protocol
------------------------------------------------------------

@[simp]
theorem javadoc_plain
    (type : TypeName)
    (name : String)
    (modifiers : List Modifier) :
    (Field.plain type name modifiers).javadoc = none :=
  rfl

/- The field that holds what the protocol needs. -/
theorem Strategy.javadoc_field
    (t : Strategy) :
    t.field.javadoc = none := by
  unfold field
  cases t.factory? <;> rfl

/- The method that makes handlers of errors. -/
theorem Strategy.isTidy_helper
    (t : Strategy) :
    ∀ m ∈ t.helper, m.IsTidy := by
  unfold helper
  cases t.factory? with
  | none => simp
  | some f =>
      rintro m ⟨⟩
      refine ⟨tidyText_of_mem_none, ?_⟩
      have hShapes : InLine f.errorShapes := by
        unfold Factory.errorShapes
        split <;> simp
      simp [-String.reduceAppend, Factory.helper, hShapes,
        protocolFactoryField]

/- The lines that a factory is told, up to the last end. -/
theorem JsonSettings.closes_lines
    (settings : JsonSettings) :
    Closes (outline settings.lines) := by
  have hParts :
      ∀ parts ∈ settings.parts, Closes (outline parts) := by
    simp only [JsonSettings.parts, JsonSettings.required,
      List.forall_mem_append, List.forall_mem_map,
      List.forall_mem_cons]
    refine ⟨⟨⟨?_, ?_, ?_, ?_, by simp⟩, ?_⟩, ?_⟩
    · exact @InLine.closes [_, _] ")" (by simp) (by decide)
    · cases settings.supportsCbor <;> rfl
    · cases settings.supportsIon <;> rfl
    · rfl
    · intro contentType _
      exact @InLine.closes [_, _] ")" (by simp) (by decide)
    · intro e _
      exact @InLine.closes [_, _, _, _, _, _] ".class))"
        (by simp) (by decide)
  unfold lines
  apply closes_join
  · simp [JsonSettings.parts, JsonSettings.required]
  · rw [List.forall_mem_map]
    intro parts hMem
    rw [Code.outline_ofParts]
    exact hParts parts hMem

/- The method that gives the protocol's field its value. -/
theorem Strategy.isTidy_initializer
    {t : Strategy}
    {m : Method}
    (hInitializer : t.initializer = .ok m) :
    m.IsTidy := by
  rcases initializer_cases hInitializer with
    ⟨factory, settings, -, -, rfl⟩ |
      ⟨exceptions, -, -, rfl⟩
  · have hLines :
        TidyParts (settings.lines ++ [.text ");\n"]) := by
      have hClosed :=
        settings.closes_lines.append
          (b := outline [.text ");\n"]) rfl
      rw [TidyParts, Code.outline_append]
      exact hClosed.tidy
    refine ⟨tidyText_of_mem_none, ?_⟩
    unfold Factory.initializer
    rw [tidyParts_ofParts_iff]
    exact TidyParts.continued rfl hLines
  · have hAdded :
        TidyParts
          (exceptions.flatMap Xml.errorRegistration) :=
      TidyParts.flatMap fun _ _ => rfl
    refine ⟨tidyText_of_mem_none, ?_⟩
    unfold Xml.initializer
    rw [tidyParts_ofParts_iff]
    refine ((TidyParts.append ?_ hAdded).append ?_).append ?_
    · rfl
    · rfl
    · rfl

------------------------------------------------------------
-- Dry Runs
------------------------------------------------------------

/- A test for a signal is on a line. -/
theorem DryRun.inLine_test
    (signal : Signal) :
    InLine signal.test := by
  have hDigits :
      '\n' ∉ Nat.toDigits 10 signal.statusCode := by
    intro hMem
    have hDigit :=
      Nat.isDigit_of_mem_toDigits (by decide) (by decide) hMem
    exact absurd hDigit (by decide)
  simp [Signal.test, hDigits]

mutual

/- A statement of a program is tidy as it is written, -/
theorem DryRun.Statement.tidyParts
    (names : Names) :
    (statement : Statement) →
      TidyParts (statement.parts names)
  | .execute => by
      rw [Statement.parts]
      have hInput :
          TidyParts [".withInput(dryRunRequest));\n"] :=
        .line_cons rfl (by decide) tidyParts_nil
      exact TidyParts.continued rfl
        (.line_cons rfl (by decide)
          (tidyParts_handlerLines hInput))
  | .throwClientError message hasCause => by
      cases hasCause <;> simp [Statement.parts]
  | .returnResult wouldSucceed => by
      cases wouldSucceed <;>
        simp [Statement.parts, boolText]
  | .testSignals tests => by
      rw [Statement.parts]
      rcases DryRun.closes_testParts names tests with
        rfl | hTests
      · rw [testParts]
        exact tidyParts_nil
      · exact hTests.tidy
  | .tryCatch body handler => by
      have hBody := DryRun.tidyParts_allParts names body
      have hHandler :=
        DryRun.tidyParts_allParts names handler
      simp [Statement.parts, hBody, hHandler]

/- So are statements one after the other, -/
theorem DryRun.tidyParts_allParts
    (names : Names) :
    (statements : List Statement) →
      TidyParts (allParts names statements)
  | [] => by
      rw [allParts]
      exact tidyParts_nil
  | first :: rest => by
      rw [allParts]
      exact (first.tidyParts names).append
        (DryRun.tidyParts_allParts names rest)

/- And tests, each of which may follow another on its line. -/
theorem DryRun.closes_testParts
    (names : Names) :
    (tests : List (Signal × Statement)) →
      tests = [] ∨ Closes (outline (testParts names tests))
  | [] => .inl rfl
  | [(signal, reaction)] => by
      rw [testParts]
      exact .inr ((DryRun.inLine_test signal).closes_block
        (reaction.tidyParts names))
  | (signal, reaction) :: next :: more => by
      have hRest :=
        (DryRun.closes_testParts names
          (next :: more)).resolve_left
          (List.cons_ne_nil next more)
      -- The next test stands on the line that ends this one.
      have hOpened :=
        (DryRun.inLine_test signal).closes_opened
          (reaction.tidyParts names)
      have hElse :
          Flows (outline [.unindent, .text "\x7d else "]) :=
        rfl
      have hAll := hOpened.append (hElse.closes hRest).tidy
      refine .inr ?_
      rw [testParts, Code.outline_append, Code.outline_append,
        List.append_assoc]
      exact hAll

end

/- The statements in front of a dry run are tidy. -/
theorem DryRun.tidyParts_preparation :
    TidyParts DryRun.preparation := by
  unfold preparation
  refine (TidyParts.append ?_ ?_).append
    tidyParts_xmlErrorHandler
  · rfl
  · rfl

/- The method that makes dry runs. -/
theorem DryRun.isTidy_method
    (names : Names) :
    (DryRun.method names).IsTidy := by
  refine ⟨tidyText_of_mem_none, ?_⟩
  unfold DryRun.method
  rw [tidyParts_ofParts_iff]
  exact DryRun.tidyParts_preparation.append
    (program.tidyParts names)

/- The methods that only one protocol has. -/
theorem Strategy.isTidy_additional
    (t : Strategy) :
    ∀ m ∈ t.additional, m.IsTidy := by
  unfold additional
  cases t.kind <;> simp [DryRun.isTidy_method]

------------------------------------------------------------
-- Clients
------------------------------------------------------------

/- The method that makes the waiters once. -/
theorem isTidy_lazyWaiters
    (waiters : ClassName) :
    (lazyWaiters waiters).IsTidy := by
  have hMade :
      TidyParts
        (statement
          [waitersAccessor ++ " = new ", waiters,
            "(this)"]) :=
    rfl
  have hAbsent :
      InLine ["if (" ++ waitersAccessor ++ " == null)"] := by
    simp [waitersAccessor]
  have hAlone : InLine ["synchronized (this)"] := by
    simp
  have hChecked :=
    TidyParts.block hAlone (TidyParts.block hAbsent hMade)
  apply isTidy_implemented
  exact (TidyParts.block hAbsent hChecked).append rfl

/- The method that makes presigners. -/
theorem isTidy_newPresigners
    (presigners : ClassName) :
    (newPresigners presigners).IsTidy := by
  apply isTidy_implemented
  have hHead :
      TidyParts ["return new ", presigners, "(",
        Sdk.presignerParams, ".builder()\n"] :=
    @InLine.closes [_, _, _, _] ".builder()\n" (by simp)
      (by decide) |>.tidy
  have hSettings :
      TidyParts
        [.text (".endpoint(" ++ clientParamsName ++
          ".getEndpoint())\n"),
        .text (".credentialsProvider(" ++ clientParamsName ++
          ".getCredentialsProvider())\n"),
        .text (".signerProvider(" ++ clientParamsName ++
          ".getSignerProvider())\n"),
        ".build());\n"] :=
    .line_cons
      (append_eq_ofList (append_eq_ofList rfl rfl) rfl)
      (by decide)
      (.line_cons
        (append_eq_ofList (append_eq_ofList rfl rfl) rfl)
        (by decide)
        (.line_cons
          (append_eq_ofList (append_eq_ofList rfl rfl) rfl)
          (by decide)
          (.line_cons rfl (by decide) tidyParts_nil)))
  exact TidyParts.continued hHead hSettings

/- The statements that set the fields of a client. -/
theorem SyncParts.tidyParts_initialization
    (p : SyncParts) :
    TidyParts p.initialization := by
  have hField : '\n' ∉ p.strategy.field.name.toList :=
    newline_not_mem_of_isIdentifier
      (Field.isLegal_iff.mp p.strategy.isLegal_field).1
  have hCrc :
      ∀ b, TidyParts [.text
        (".withCalculateCrc32FromCompressedDataEnabled(" ++
          boolText b ++ "));\n")] :=
    fun b => by
      cases b <;> exact .line_cons
        (append_eq_ofList (append_eq_ofList rfl rfl) rfl)
        (by decide) tidyParts_nil
  have hSettings : TidyParts p.handlerSettings := by
    unfold handlerSettings
    cases p.advanced with
    | none => exact hCrc _
    | some advanced =>
        exact .line_cons
          (append_eq_ofList (append_eq_ofList rfl rfl) rfl)
          (by decide) (hCrc _)
  have hAdvanced :
      TidyParts
        (if p.advanced.isSome then
          assign advancedConfigurationName
            [advancedConfigurationName]
        else []) := by
    cases p.advanced <;> rfl
  unfold initialization
  refine (((TidyParts.continued ?_ hSettings).append
    ?_).append hAdvanced).append
    (tidyParts_assign hField (by simp [initMethod]))
  · rfl
  · rfl

/- The synchronous client. -/
theorem SyncParts.isTidy_declaration
    {p : SyncParts}
    (hInitializer :
      p.strategy.initializer = .ok p.initializer) :
    p.declaration.IsTidy where
  javadoc := tidyText_of_mem_none
  fields := by
    have hField := p.strategy.javadoc_field
    cases hWaiters : p.strategy.service.hasWaiters <;>
      simp [SyncParts.declaration, SyncParts.fields,
        syncFields, privateField, hWaiters, or_imp,
        forall_and, hField]
  methods := by
    have hConstructors : ∀ m ∈ p.constructors, m.IsTidy :=
      isTidy_clientConstructors p.tidyParts_initialization
    have hWaiters :
        ∀ m ∈ (if p.strategy.service.hasWaiters then
            [lazyWaiters p.strategy.names.waiters]
            else []),
          m.IsTidy := by
      cases p.strategy.service.hasWaiters <;>
        simp [isTidy_lazyWaiters]
    have hHelper :
        ∀ m ∈ p.strategy.helper.toList, m.IsTidy := by
      simpa using p.strategy.isTidy_helper
    have hClosing : (closing clientHandlerField).IsTidy :=
      isTidy_closing (by simp [clientHandlerField])
    simp only [SyncParts.declaration, SyncParts.methods,
      List.forall_mem_append, List.forall_mem_map,
      List.forall_mem_singleton]
    exact ⟨⟨⟨⟨⟨⟨⟨hConstructors,
      fun types _ => isTidy_implementedOperation _ types⟩,
      hHelper⟩, Strategy.isTidy_initializer hInitializer⟩,
      hWaiters⟩,
      fun presigners _ => isTidy_newPresigners presigners⟩,
      hClosing⟩, p.strategy.isTidy_additional⟩

/- The asynchronous client. -/
theorem isTidy_asyncClient
    (advanced : Option ClassName)
    (operations : List OperationTypes) :
    (asyncClient n advanced operations).IsTidy where
  javadoc := tidyText_of_mem_none
  fields := by simp [asyncClient, privateField]
  methods := by
    have hInitialization :
        TidyParts (asyncInitialization n advanced) := by
      cases advanced <;>
        simp [-String.reduceAppend, asyncInitialization,
          syncClientField, executorField, clientParamsName,
          advancedConfigurationName]
    have hDelegated :
        ∀ types : OperationTypes,
          (delegatedOperation types).IsTidy := by
      intro types
      apply isTidy_implemented
      simp [-String.reduceAppend, types.method.newline_not_mem,
        types.input.newline_not_mem, syncClientField,
        executorField]
    have hClosing : (closing syncClientField).IsTidy :=
      isTidy_closing (by simp [syncClientField])
    simp only [asyncClient, List.forall_mem_append,
      List.forall_mem_map, List.forall_mem_singleton]
    exact ⟨⟨isTidy_clientConstructors hInitialization,
      fun types _ => hDelegated types⟩, hClosing⟩

------------------------------------------------------------
-- Builders
------------------------------------------------------------

@[simp]
theorem isTidy_finalMethod
    {name : String}
    {returned : TypeName}
    {parameters : List Parameter}
    {body : List Part}
    (hBody : TidyParts body) :
    (finalMethod name returned parameters body).IsTidy := by
  rw [Method.isTidy_iff]
  simp [finalMethod, hBody]

@[simp]
theorem isTidy_finalOverride
    {name : String}
    {returned : TypeName}
    {body : List Part}
    (hBody : TidyParts body) :
    (finalOverride name returned body).IsTidy := by
  rw [Method.isTidy_iff]
  simp [finalOverride, finalMethod, hBody]

/- The methods of an anonymous class are blocks. -/
theorem tidyParts_securityDefaults
    (m : Metadata) :
    TidyParts (securityDefaults m) := by
  have hSigner : TidyParts (signer m) := by
    unfold signer
    cases m.signatureVersion with
    | v2 => rfl
    | v4 =>
        refine ((TidyParts.append ?_ ?_).append ?_).append ?_
        · rfl
        · simp
        · rfl
        · rfl
  have hProvider :
      TidyParts (statement
        ["builder.signerProvider(builder.signerProvider()" ++
          ".orElseGet(this::defaultSignerProvider))"]) :=
    tidyParts_statement (inLine_text_cons_iff.mpr
      ⟨newline_not_mem_literal (append_eq_ofList rfl rfl)
        (by decide), inLine_nil⟩)
  unfold securityDefaults
  refine ((TidyParts.append ?_ ?_).append ?_).append ?_
  · rfl
  · exact TidyParts.block (by simp) hProvider
  · rfl
  · exact TidyParts.block (by simp) hSigner

theorem tidyParts_chainedHandlers
    {chain : String}
    (hChain : '\n' ∉ chain.toList)
    (path : String) :
    TidyParts (chainedHandlers chain path) := by
  simp [chainedHandlers, hChain]

theorem tidyParts_listenerDefaults
    (n : Names) :
    TidyParts (listenerDefaults n) := by
  have hFactory :
      TidyParts (statement [Sdk.handlerChainFactory,
        " chainFactory = new ", Sdk.handlerChainFactory,
        "()"]) :=
    rfl
  unfold listenerDefaults
  refine TidyParts.append rfl
    (TidyParts.block (by simp) ?_)
  exact (hFactory.append
    (tidyParts_chainedHandlers (by simp) _)).append
    (tidyParts_chainedHandlers (by simp) _)

/- The method that makes the defaults of a service. -/
theorem isTidy_serviceDefaults
    (m : Metadata)
    (n : Names) :
    (serviceDefaults m n).IsTidy := by
  apply isTidy_finalOverride
  refine (((TidyParts.append ?_
    (tidyParts_securityDefaults m)).append ?_).append
    (tidyParts_listenerDefaults n)).append ?_
  · rfl
  · rfl
  · rfl

/- The methods that set and get the configuration. -/
theorem isTidy_configurationMethods
    (advanced : ClassName) :
    ∀ m ∈ configurationMethods advanced, m.IsTidy := by
  simp only [configurationMethods, List.forall_mem_cons]
  refine ⟨⟨tidyText_of_mem_none, ?_⟩,
    ⟨tidyText_of_mem_none, ?_⟩, by simp⟩
  · simp [-String.reduceAppend, advancedConfigurationName]
  · simp [-String.reduceAppend, finalMethod,
      advancedConfigurationName]

/- The builder that both builders extend. -/
theorem isTidy_baseBuilder
    {s : Service}
    (hService : TidyService s)
    (advanced : Option ClassName) :
    (baseBuilder s n advanced).IsTidy where
  javadoc := tidyText_of_mem_none
  fields := by simp [baseBuilder]
  methods := by
    have hEndpoint : (endpointPrefix s.metadata).IsTidy := by
      simp [endpointPrefix]
    have hHttp :
        ∀ expression ∈ s.customization.httpConfig.toList,
          (httpConfig expression).IsTidy := by
      intro expression hMem
      have hLine :=
        hService.httpConfig expression
          (Option.mem_toList.mp hMem)
      simp [httpConfig, hLine]
    have hConfiguration :
        ∀ m ∈ advanced.elim [] configurationMethods,
          m.IsTidy := by
      cases advanced with
      | none => simp
      | some c => exact isTidy_configurationMethods c
    simp only [baseBuilder, List.forall_mem_append,
      List.forall_mem_cons, List.forall_mem_map]
    exact ⟨⟨⟨hEndpoint,
      isTidy_serviceDefaults s.metadata n, by simp⟩,
      hHttp⟩, hConfiguration⟩

/- The interface of builders. -/
theorem isTidy_builderInterface
    (flavour : Flavour)
    (advanced : Option ClassName) :
    (builderInterface n flavour advanced).IsTidy where
  javadoc := by
    have hClient :
        '\n' ∉ (n.interface flavour).simple.toList := by
      cases flavour with
      | sync => exact newline_not_mem_simple n .syncInterface
      | async => exact newline_not_mem_simple n .asyncInterface
    rintro text ⟨⟩
    apply tidyText_of_newline_not_mem
    unfold builderJavadoc link
    simp [-String.reduceAppend, hClient]
  fields := by simp [builderInterface]
  methods := by
    have hSetter :
        ∀ c,
          (configurationSetter (n.builderInterface flavour)
            c).IsTidy := by
      intro c
      refine ⟨?_, rfl⟩
      rintro text ⟨⟩
      exact tidyText_of_newline_not_mem
        (newline_not_mem_literal rfl (by decide))
    simpa [builderInterface] using fun c _ => hSetter c

/- The builder of synchronous clients. -/
theorem isTidy_syncBuilder
    (advanced : Option ClassName) :
    (syncBuilder n advanced).IsTidy where
  javadoc := tidyText_of_mem_none
  fields := by simp [syncBuilder, builderClass]
  methods := by
    have hBuild : (buildSyncClient n advanced).IsTidy := by
      apply isTidy_finalOverride
      cases advanced <;>
        simp [-String.reduceAppend, advancedConfigurationName]
    have hConfigured :
        ∀ c, (buildConfiguredClient n c).IsTidy := by
      intro c
      apply isTidy_finalMethod
      simp [-String.reduceAppend, advancedConfigurationName]
    simpa [syncBuilder, builderClass]
      using ⟨hBuild, fun c _ => hConfigured c⟩

/- The builder of asynchronous clients. -/
theorem isTidy_asyncBuilder
    (advanced : Option ClassName) :
    (asyncBuilder n advanced).IsTidy where
  javadoc := tidyText_of_mem_none
  fields := by simp [asyncBuilder, builderClass]
  methods := by
    have hBuild : (buildAsyncClient n advanced).IsTidy := by
      apply isTidy_finalOverride
      cases advanced <;>
        simp [-String.reduceAppend, advancedConfigurationName]
    simpa [asyncBuilder, builderClass] using hBuild

------------------------------------------------------------
-- The Family
------------------------------------------------------------

/- Every type of the family is tidy if the service is. -/
theorem Role.isTidy_declare
    {s : Service}
    {p : SyncParts}
    (hService : TidyService s)
    (hParts : SyncParts.Checked s p)
    (role : Role) :
    (role.declare p).IsTidy := by
  have hOperations :
      ∀ types ∈ p.operations,
        TidyOperation types.operation := by
    intro types hMem
    rcases exists_of_mem_mapM hParts.operations hMem with
      ⟨o, hO, hTypes⟩
    rw [(Names.matches_of_operation hTypes).operation]
    exact hService.operations o hO
  have hStrategy : TidyService p.strategy.service := by
    rw [hParts.service_eq]
    exact hService
  cases role with
  | syncInterface => exact isTidy_syncInterface hOperations _
  | syncClient =>
      exact SyncParts.isTidy_declaration hParts.initializer
  | asyncInterface => exact isTidy_asyncInterface hOperations
  | asyncClient => exact isTidy_asyncClient _ _
  | baseBuilder => exact isTidy_baseBuilder hStrategy _
  | syncBuilderInterface => exact isTidy_builderInterface _ _
  | syncBuilder => exact isTidy_syncBuilder _
  | asyncBuilderInterface => exact isTidy_builderInterface _ _
  | asyncBuilder => exact isTidy_asyncBuilder _

end ClientGen.Client
