import ClientGen.Proofs.Client.Declared
import ClientGen.Proofs.Java.Regular

/-
  The form that the members of all generated types have.

  Main declarations include:
    * `isRegular_implementedOperation`
    * `Strategy.isRegular_initializer`
    * `DryRun.isRegular_method`
    * `isRegular_serviceDefaults`
    * `Role.isRegular_declare`

  Every member of every type is gone through, once for each
  way in which members are made.
-/

namespace ClientGen.Client

open ClientGen.Java ClientGen.Java.Code ClientGen.Model

variable {n : Names}

------------------------------------------------------------
-- Interfaces
------------------------------------------------------------

@[simp]
theorem isUnbounded_returned
    (flavour : Flavour)
    (response : ClassName) :
    (flavour.returned response).isUnbounded = true := by
  cases flavour <;> rfl

@[simp]
theorem isUnbounded_parameter
    (types : OperationTypes) :
    types.parameter.type.isUnbounded = true :=
  rfl

/- An operation as an interface declares it. -/
theorem isRegular_declaredOperation
    (flavour : Flavour)
    (types : OperationTypes) :
    (declaredOperation flavour types).IsRegular true := by
  rw [Method.isRegular_iff]
  simp [declaredOperation, Method.isConstructor,
    Method.hasBody, Annotation.deprecated]

/- The other methods of an interface. -/
@[simp]
theorem isRegular_builderFactory
    (flavour : Flavour)
    (javadoc : Option String) :
    (builderFactory n flavour javadoc).IsRegular true := by
  rw [Method.isRegular_iff]
  simp [builderFactory, Method.isConstructor, Method.hasBody]

@[simp]
theorem isRegular_clientFactory
    (flavour : Flavour)
    (javadoc : Option String) :
    (clientFactory n flavour javadoc).IsRegular true := by
  rw [Method.isRegular_iff]
  simp [clientFactory, Method.isConstructor, Method.hasBody]

@[simp]
theorem isRegular_metadataFactory
    (endpointPrefix : String) :
    (metadataFactory endpointPrefix).IsRegular true := by
  rw [Method.isRegular_iff]
  simp [metadataFactory, Method.isConstructor, Method.hasBody]

/- A method without a body has no code either. -/
@[simp]
theorem isRegular_accessor
    (name : String)
    (returned : ClassName)
    (inInterface : Bool) :
    (accessor name returned).IsRegular inInterface := by
  rw [Method.isRegular_iff]
  simp [accessor, Method.isConstructor, Code.empty]

/- The interface of clients. -/
theorem isRegular_syncInterface
    (s : Service)
    (operations : List OperationTypes)
    (presigners : Option ClassName) :
    (syncInterface s n operations presigners).IsRegular where
  annotations := by simp [syncInterface]
  typeVariables := by simp [syncInterface]
  superclass := by simp [syncInterface]
  superinterfaces := by simp [syncInterface]
  fields := by simp [syncInterface]
  methods := by
    cases hWaiters : s.hasWaiters <;>
      simp [syncInterface, hWaiters, or_imp, forall_and,
        isRegular_declaredOperation]

/- That of clients that return futures. -/
theorem isRegular_asyncInterface
    (operations : List OperationTypes) :
    (asyncInterface n operations).IsRegular where
  annotations := by simp [asyncInterface]
  typeVariables := by simp [asyncInterface]
  superclass := by simp [asyncInterface]
  superinterfaces := by simp [asyncInterface]
  fields := by simp [asyncInterface]
  methods := by
    simp [asyncInterface, isRegular_declaredOperation]

------------------------------------------------------------
-- Members of All Clients
------------------------------------------------------------

/- What sets a field is regular if the value is. -/
@[simp]
theorem regularParts_assign
    {name : String}
    {value : List Part}
    (hValue : RegularParts value) :
    RegularParts (assign name value) := by
  simp [assign, hValue]

/- A constructor returns nothing. -/
@[simp]
theorem isRegular_protectedConstructor
    {parameters : List Parameter}
    {body : List Part}
    (hParameters :
      ∀ p ∈ parameters, p.type.isUnbounded = true)
    (hBody : RegularParts body) :
    (protectedConstructor parameters body).IsRegular
      false := by
  rw [Method.isRegular_iff]
  simp [protectedConstructor, Method.isConstructor,
    Method.hasBody, hBody]
  exact hParameters

/- Both constructors of a client. -/
theorem isRegular_clientConstructors
    {params : ClassName}
    {advanced : Option ClassName}
    {body : List Part}
    (hBody : RegularParts body) :
    ∀ m ∈ clientConstructors params advanced body,
      m.IsRegular false := by
  cases advanced <;>
    simp [clientConstructors, hBody]

@[simp]
theorem isRegular_implemented
    {name : String}
    {returned : TypeName}
    {parameters : List Parameter}
    {body : List Part}
    (hReturned : returned.isUnbounded = true)
    (hParameters :
      ∀ p ∈ parameters, p.type.isUnbounded = true)
    (hBody : RegularParts body) :
    (implemented name returned parameters body).IsRegular
      false := by
  rw [Method.isRegular_iff]
  simp [implemented, Method.isConstructor, Method.hasBody,
    Annotation.overriding, hReturned, hBody]
  exact hParameters

@[simp]
theorem isRegular_closing
    (name : String) :
    (closing name).IsRegular false := by
  rw [Method.isRegular_iff]
  simp [closing, implemented, Method.isConstructor,
    Method.hasBody, Annotation.overriding]

------------------------------------------------------------
-- Statements of Operations
------------------------------------------------------------

@[simp]
theorem isUnbounded_handled
    (envelope : Envelope)
    (response : ClassName) :
    (envelope.handled response).isUnbounded = true := by
  cases envelope <;> rfl

/- The last statement of an operation. -/
@[simp]
theorem regularParts_executionCall
    (types : OperationTypes)
    (envelope : Envelope)
    (argument : String) :
    RegularParts (executionCall types envelope argument) := by
  simp [executionCall]

/- The handlers of responses and of errors. -/
theorem Strategy.regularParts_responseHandler
    (t : Strategy)
    (types : OperationTypes) :
    RegularParts (t.responseHandler types) := by
  unfold responseHandler
  cases t.factory? with
  | none => simp [Xml.responseHandler]
  | some f => simp [Factory.responseHandler, handlerOf]

@[simp]
theorem regularParts_xmlErrorHandler :
    RegularParts Xml.errorHandler := by
  simp [Xml.errorHandler]

theorem Strategy.regularParts_errorHandler
    (t : Strategy) :
    RegularParts t.errorHandler := by
  unfold errorHandler
  cases t.factory? with
  | none => exact regularParts_xmlErrorHandler
  | some f => simp [delegatedErrorHandler, handlerOf]

/- The call of an operation. -/
theorem Strategy.regularParts_executionCall
    (t : Strategy)
    (types : OperationTypes) :
    RegularParts (t.executionCall types) := by
  unfold executionCall
  cases t.factory? <;> simp

/- An operation as the client carries it out. -/
theorem isRegular_implementedOperation
    (t : Strategy)
    (types : OperationTypes) :
    (implementedOperation t types).IsRegular false := by
  have hGap : RegularParts [.text "\n"] := by simp
  apply isRegular_implemented rfl (by simp)
  exact ((((t.regularParts_responseHandler types).append
    hGap).append t.regularParts_errorHandler).append
    hGap).append (t.regularParts_executionCall types)

------------------------------------------------------------
-- Members of a Protocol
------------------------------------------------------------

/- The field that holds what the protocol needs. -/
theorem Strategy.regular_field
    (t : Strategy) :
    t.field.type.isUnbounded = true ∧
      t.field.initializer = none := by
  unfold field
  cases t.factory? <;>
    simp [Xml.field, Xml.unmarshallerList, Factory.field]

/- The method that makes handlers of errors. -/
theorem Strategy.isRegular_helper
    (t : Strategy) :
    ∀ m ∈ t.helper, m.IsRegular false := by
  unfold helper
  cases t.factory? with
  | none => simp
  | some f =>
      simp only [Option.map_some, Option.mem_some_iff,
        forall_eq']
      rw [Method.isRegular_iff]
      cases hShapes : f.takesErrorShapes <;>
        simp [Factory.helper, Factory.errorShapes, handlerOf,
          hShapes, Method.isConstructor, Method.hasBody]

/- The lines that a factory is told. -/
theorem JsonSettings.regularParts_lines
    (settings : JsonSettings) :
    RegularParts settings.lines := by
  have hParts :
      ∀ parts ∈ settings.parts, RegularParts parts := by
    simp only [JsonSettings.parts, List.forall_mem_append,
      List.forall_mem_map]
    refine ⟨⟨?_, ?_⟩, ?_⟩
    · simp [required]
    · simp [contentTypeOverride]
    · simp [errorRegistration]
  apply regularParts_join
  rw [List.forall_mem_map]
  intro parts hMem
  exact regularParts_ofParts_iff.mpr (hParts parts hMem)

/- The method that gives the protocol's field its value. -/
theorem Strategy.isRegular_initializer
    {t : Strategy}
    {m : Method}
    (hInitializer : t.initializer = .ok m) :
    m.IsRegular false := by
  rcases initializer_cases hInitializer with
    ⟨factory, settings, -, -, rfl⟩ |
      ⟨exceptions, -, -, rfl⟩
  · have hLines := settings.regularParts_lines
    rw [Method.isRegular_iff]
    simp [Factory.initializer, Method.isConstructor,
      Method.hasBody, hLines]
  · have hAdded :
        RegularParts
          (exceptions.flatMap Xml.errorRegistration) := by
      apply RegularParts.flatMap
      simp [Xml.errorRegistration]
    have hBody :
        RegularParts (Xml.initializer t.names exceptions
          ).body.parts := by
      unfold Xml.initializer
      rw [regularParts_ofParts_iff]
      refine ((RegularParts.append ?_ hAdded).append
        ?_).append ?_ <;>
        simp [Xml.unmarshallerList]
    exact
      { annotations := by simp [Xml.initializer]
        typeVariables := by simp [Xml.initializer]
        returns := rfl
        parameters := by simp [Xml.initializer]
        throws := by simp [Xml.initializer]
        body := hBody
        bodyless := .inl rfl
        constructor := by
          simp [Xml.initializer, Method.isConstructor] }

/- The statements in front of a dry run are regular. -/
theorem DryRun.regularParts_preparation :
    RegularParts DryRun.preparation := by
  unfold preparation
  refine (RegularParts.append ?_ ?_).append
    regularParts_xmlErrorHandler <;>
    simp [sentRequest]

mutual

/- A statement of a program is regular as it is written, -/
theorem DryRun.Statement.regularParts
    (names : Names) :
    (statement : Statement) →
      RegularParts (statement.parts names)
  | .execute => by
      simp [Statement.parts, executionParts, sentRequest]
  | .throwClientError message hasCause => by
      cases hasCause <;> simp [Statement.parts]
  | .returnResult wouldSucceed => by
      simp [Statement.parts, resultType]
  | .testSignals tests =>
      DryRun.regularParts_testParts names tests
  | .tryCatch body handler => by
      have hBody := DryRun.regularParts_allParts names body
      have hHandler :=
        DryRun.regularParts_allParts names handler
      simp [Statement.parts, hBody, hHandler]

/- So are statements one after the other, -/
theorem DryRun.regularParts_allParts
    (names : Names) :
    (statements : List Statement) →
      RegularParts (allParts names statements)
  | [] => regularParts_nil
  | first :: rest =>
      (first.regularParts names).append
        (DryRun.regularParts_allParts names rest)

/- And tests, though one ends where the next begins. -/
theorem DryRun.regularParts_testParts
    (names : Names) :
    (tests : List (Signal × Statement)) →
      RegularParts (testParts names tests)
  | [] => regularParts_nil
  | [(signal, reaction)] =>
      RegularParts.block (by simp [Signal.test])
        (reaction.regularParts names)
  | (signal, reaction) :: next :: more => by
      -- The next test stands on the line that ends this one,
      -- so the marks of a block are not those of a test.
      have hTest : RegularParts signal.test := by
        simp [Signal.test]
      have hReaction := (reaction.regularParts names).nested
      have hRest :=
        DryRun.regularParts_testParts names (next :: more)
      have hAlternative :
          RegularParts
            ([.text "\x7d else "] ++
              testParts names (next :: more)) :=
        regularParts_text_cons_iff.mpr hRest
      have hOpening : RegularParts [.text " \x7b\n"] := by
        simp
      have hAll :=
        ((hTest.append hOpening).append hReaction).append
          hAlternative
      simpa [testParts] using hAll

end

/- The method that makes dry runs. -/
theorem DryRun.isRegular_method
    (names : Names) :
    (DryRun.method names).IsRegular false := by
  have hBody :=
    DryRun.regularParts_preparation.append
      (program.regularParts names)
  rw [Method.isRegular_iff]
  simp [DryRun.method, resultType, Method.isConstructor,
    Method.hasBody, hBody]

/- The methods that only one protocol has. -/
theorem Strategy.isRegular_additional
    (t : Strategy) :
    ∀ m ∈ t.additional, m.IsRegular false := by
  unfold additional
  cases t.kind <;> simp [DryRun.isRegular_method]

------------------------------------------------------------
-- Clients
------------------------------------------------------------

/- The method that makes the waiters once. -/
theorem isRegular_lazyWaiters
    (waiters : ClassName) :
    (lazyWaiters waiters).IsRegular false := by
  apply isRegular_implemented rfl (by simp)
  have hMade :
      RegularParts
        (statement
          [waitersAccessor ++ " = new ", waiters,
            "(this)"]) := by
    simp
  have hAbsent :
      RegularParts
        ["if (" ++ waitersAccessor ++ " == null)"] := by
    simp
  exact (hAbsent.block
    (RegularParts.block (by simp)
      (hAbsent.block hMade))).append (by simp)

/- The method that makes presigners. -/
theorem isRegular_newPresigners
    (presigners : ClassName) :
    (newPresigners presigners).IsRegular false := by
  apply isRegular_implemented rfl (by simp)
  simp

/- The statements that set the fields of a client. -/
theorem SyncParts.regularParts_initialization
    (p : SyncParts) :
    RegularParts p.initialization := by
  have hSettings : RegularParts p.handlerSettings := by
    unfold handlerSettings
    cases p.advanced <;> simp
  have hAdvanced :
      RegularParts
        (if p.advanced.isSome then
          assign advancedConfigurationName
            [advancedConfigurationName]
        else []) := by
    cases p.advanced <;> simp
  unfold initialization
  exact (((RegularParts.continued (by simp) hSettings).append
    (by simp)).append hAdvanced).append (by simp)

/- The synchronous client. -/
theorem SyncParts.isRegular_declaration
    {p : SyncParts}
    (hInitializer : p.strategy.initializer = .ok p.initializer) :
    p.declaration.IsRegular where
  annotations := by simp [SyncParts.declaration]
  typeVariables := by simp [SyncParts.declaration]
  superclass := by simp [SyncParts.declaration]
  superinterfaces := by simp [SyncParts.declaration]
  fields := by
    have hField := p.strategy.regular_field
    cases hWaiters : p.strategy.service.hasWaiters <;>
      simp [SyncParts.declaration, SyncParts.fields,
        syncFields, privateField, hWaiters, or_imp,
        forall_and, hField]
  methods := by
    have hConstructors :
        ∀ m ∈ p.constructors, m.IsRegular false :=
      isRegular_clientConstructors
        p.regularParts_initialization
    have hOperations :
        ∀ types ∈ p.operations,
          (implementedOperation p.strategy types).IsRegular
            false :=
      fun types _ =>
        isRegular_implementedOperation p.strategy types
    have hWaiters :
        ∀ m ∈ (if p.strategy.service.hasWaiters then
            [lazyWaiters p.strategy.names.waiters]
            else []),
          m.IsRegular false := by
      cases p.strategy.service.hasWaiters <;>
        simp [isRegular_lazyWaiters]
    have hHelper :
        ∀ m ∈ p.strategy.helper.toList, m.IsRegular false := by
      simpa using p.strategy.isRegular_helper
    simp only [SyncParts.declaration, SyncParts.methods,
      List.forall_mem_append, List.forall_mem_map,
      List.forall_mem_singleton]
    exact ⟨⟨⟨⟨⟨⟨⟨hConstructors, hOperations⟩, hHelper⟩,
      Strategy.isRegular_initializer hInitializer⟩, hWaiters⟩,
      fun presigners _ => isRegular_newPresigners presigners⟩,
      isRegular_closing clientHandlerField⟩,
      p.strategy.isRegular_additional⟩

/- The asynchronous client. -/
theorem isRegular_asyncClient
    (advanced : Option ClassName)
    (operations : List OperationTypes) :
    (asyncClient n advanced operations).IsRegular where
  annotations := by simp [asyncClient]
  typeVariables := by simp [asyncClient]
  superclass := by simp [asyncClient]
  superinterfaces := by simp [asyncClient]
  fields := by simp [asyncClient, privateField]
  methods := by
    have hInitialization :
        RegularParts (asyncInitialization n advanced) := by
      simp [asyncInitialization]
    have hDelegated :
        ∀ types ∈ operations,
          (delegatedOperation types).IsRegular false := by
      intro types _
      simp [delegatedOperation]
    simp only [asyncClient, List.forall_mem_append,
      List.forall_mem_map, List.forall_mem_singleton]
    exact ⟨⟨isRegular_clientConstructors hInitialization,
      hDelegated⟩, isRegular_closing syncClientField⟩

------------------------------------------------------------
-- Builders
------------------------------------------------------------

@[simp]
theorem isRegular_finalMethod
    {name : String}
    {returned : TypeName}
    {parameters : List Parameter}
    {body : List Part}
    (hReturned : returned.isUnbounded = true)
    (hParameters :
      ∀ p ∈ parameters, p.type.isUnbounded = true)
    (hBody : RegularParts body) :
    (finalMethod name returned parameters body).IsRegular
      false := by
  rw [Method.isRegular_iff]
  simp [finalMethod, Method.isConstructor, Method.hasBody,
    hReturned, hBody]
  exact hParameters

@[simp]
theorem isRegular_finalOverride
    {name : String}
    {returned : TypeName}
    {body : List Part}
    (hReturned : returned.isUnbounded = true)
    (hBody : RegularParts body) :
    (finalOverride name returned body).IsRegular false := by
  rw [Method.isRegular_iff]
  simp [finalOverride, finalMethod, Method.isConstructor,
    Method.hasBody, Annotation.overriding, hReturned, hBody]

/-
  The methods of an anonymous class are set down by hand and
  not as members, so each of them has marks of its own.
-/
theorem regularParts_securityDefaults
    (m : Metadata) :
    RegularParts (securityDefaults m) := by
  have hSigner : RegularParts (signer m) := by
    unfold signer
    cases m.signatureVersion with
    | v2 => simp
    | v4 =>
        refine ((RegularParts.append ?_ ?_).append ?_).append
          ?_ <;>
          simp
  unfold securityDefaults overridingMark
  refine ((RegularParts.append (by simp) ?_).append
    (by simp)).append ?_
  · exact RegularParts.block (by simp) (by simp)
  · exact RegularParts.block (by simp) hSigner

theorem regularParts_listenerDefaults
    (n : Names) :
    RegularParts (listenerDefaults n) := by
  have hChain :
      ∀ chain path,
        RegularParts (chainedHandlers chain path) := by
    simp [chainedHandlers]
  unfold listenerDefaults overridingMark
  refine RegularParts.append (by simp)
    (RegularParts.block (by simp) ?_)
  exact (RegularParts.append (by simp) (hChain _ _)).append
    (hChain _ _)

/- The method that makes the defaults of a service. -/
theorem isRegular_serviceDefaults
    (m : Metadata)
    (n : Names) :
    (serviceDefaults m n).IsRegular false := by
  apply isRegular_finalOverride rfl
  have hOpening :
      RegularParts
        [.text "return new ",
          .type (.class Sdk.clientConfigurationDefaults),
          .text "() \x7b\n"] := by
    simp
  have hGap : RegularParts [.text "\n"] := by simp
  have hClosing : RegularParts [.text "\x7d;\n"] := by simp
  have hInside :=
    (((regularParts_securityDefaults m).append hGap).append
      (regularParts_listenerDefaults n)).nested
  have hAll := (hOpening.append hInside).append hClosing
  simpa using hAll

/- The methods that set and get the configuration. -/
theorem isRegular_configurationMethods
    (advanced : ClassName) :
    ∀ m ∈ configurationMethods advanced,
      m.IsRegular false := by
  simp only [configurationMethods, List.forall_mem_cons]
  refine ⟨?_, ?_, by simp⟩
  · rw [Method.isRegular_iff]
    simp [builderVariable, advancedParameter,
      Method.isConstructor, Method.hasBody]
  · simp

/- The builder that both builders extend. -/
theorem isRegular_baseBuilder
    (s : Service)
    (advanced : Option ClassName) :
    (baseBuilder s n advanced).IsRegular where
  annotations := by simp [baseBuilder]
  typeVariables := by
    simp [baseBuilder, anyBuilder, builderVariable,
      clientVariable]
  superclass := by
    simp [baseBuilder, builderVariable, clientVariable]
  superinterfaces := by
    simp [baseBuilder, anyBuilder, builderVariable,
      clientVariable]
  fields := by simp [baseBuilder]
  methods := by
    have hEndpoint :
        (endpointPrefix s.metadata).IsRegular false := by
      simp [endpointPrefix]
    have hHttp :
        ∀ expression,
          (httpConfig expression).IsRegular false := by
      simp [httpConfig]
    have hConfiguration :
        ∀ m ∈ advanced.elim [] configurationMethods,
          m.IsRegular false := by
      cases advanced with
      | none => simp
      | some c => exact isRegular_configurationMethods c
    simp only [baseBuilder, List.forall_mem_append,
      List.forall_mem_cons, List.forall_mem_map]
    exact ⟨⟨⟨hEndpoint,
      isRegular_serviceDefaults s.metadata n, by simp⟩,
      fun expression _ => hHttp expression⟩, hConfiguration⟩

/- The interface of builders. -/
theorem isRegular_builderInterface
    (flavour : Flavour)
    (advanced : Option ClassName) :
    (builderInterface n flavour advanced).IsRegular where
  annotations := by simp [builderInterface]
  typeVariables := by simp [builderInterface]
  superclass := by simp [builderInterface]
  superinterfaces := by simp [builderInterface]
  fields := by simp [builderInterface]
  methods := by
    have hSetter :
        ∀ c,
          (configurationSetter (n.builderInterface flavour)
            c).IsRegular true := by
      intro c
      rw [Method.isRegular_iff]
      simp [configurationSetter, advancedParameter,
        Method.isConstructor, Code.empty]
    simpa [builderInterface] using fun c _ => hSetter c

/- A builder of either flavour. -/
theorem isRegular_builderClass
    {flavour : Flavour}
    {methods : List Method}
    (hMethods : ∀ m ∈ methods, m.IsRegular false) :
    (builderClass n flavour methods).IsRegular where
  annotations := by simp [builderClass]
  typeVariables := by simp [builderClass]
  superclass := by simp [builderClass]
  superinterfaces := by simp [builderClass]
  fields := by simp [builderClass]
  methods := hMethods

/- The builder of synchronous clients. -/
theorem isRegular_syncBuilder
    (advanced : Option ClassName) :
    (syncBuilder n advanced).IsRegular := by
  apply isRegular_builderClass
  have hBuild :
      (buildSyncClient n advanced).IsRegular false := by
    cases advanced <;> simp [buildSyncClient]
  have hConfigured :
      ∀ c, (buildConfiguredClient n c).IsRegular false := by
    simp [buildConfiguredClient, advancedParameter]
  simpa using ⟨hBuild, fun c _ => hConfigured c⟩

/- The builder of asynchronous clients. -/
theorem isRegular_asyncBuilder
    (advanced : Option ClassName) :
    (asyncBuilder n advanced).IsRegular := by
  apply isRegular_builderClass
  simp [buildAsyncClient]

------------------------------------------------------------
-- The Family
------------------------------------------------------------

/- Every type of the family is regular. -/
theorem Role.isRegular_declare
    {s : Service}
    {p : SyncParts}
    (hParts : SyncParts.Checked s p)
    (role : Role) :
    (role.declare p).IsRegular := by
  cases role with
  | syncInterface => exact isRegular_syncInterface _ _ _
  | syncClient =>
      exact SyncParts.isRegular_declaration hParts.initializer
  | asyncInterface => exact isRegular_asyncInterface _
  | asyncClient => exact isRegular_asyncClient _ _
  | baseBuilder => exact isRegular_baseBuilder _ _
  | syncBuilderInterface =>
      exact isRegular_builderInterface _ _
  | syncBuilder => exact isRegular_syncBuilder _
  | asyncBuilderInterface =>
      exact isRegular_builderInterface _ _
  | asyncBuilder => exact isRegular_asyncBuilder _

end ClientGen.Client
