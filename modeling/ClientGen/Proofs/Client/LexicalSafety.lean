import ClientGen.Proofs.Client.LegalNames

/-
  No text of a model stands for a name unless it is one.

  Main declarations include:
    * `SyncParts.IsLegal`
    * `Role.lexicallySafe_declare`
    * `generate_lexicallySafe`

  Every member of every type is gone through, once for each
  way in which members are made.
-/

namespace ClientGen.Client

open ClientGen.Java ClientGen.Java.Code ClientGen.Model

variable {n : Names}
variable {types : OperationTypes}

------------------------------------------------------------
-- Interfaces
------------------------------------------------------------

/- What an operation returns. -/
theorem isLegal_returned
    (hTypes : types.IsLegal)
    (flavour : Flavour) :
    (flavour.returned types.response).IsLegal := by
  cases flavour <;>
    simp [Flavour.returned, hTypes.response]

/- What it takes. -/
theorem isLegal_parameter
    (hTypes : types.IsLegal) :
    types.parameter.IsLegal := by
  simp [OperationTypes.parameter, types.input.valid,
    hTypes.request]

/- An operation as an interface declares it. -/
theorem isLegal_declaredOperation
    (hTypes : types.IsLegal)
    (flavour : Flavour) :
    (declaredOperation flavour types).IsLegal := by
  have hReturned := isLegal_returned hTypes flavour
  have hParameter := isLegal_parameter hTypes
  rw [Method.isLegal_iff]
  simp [declaredOperation, Method.ownNames, statement,
    types.method.valid, hReturned, hParameter,
    Annotation.deprecated]

/- The other methods of an interface. -/
@[simp]
theorem isLegal_builderFactory
    (flavour : Flavour)
    (javadoc : Option String) :
    (builderFactory n flavour javadoc).IsLegal := by
  rw [Method.isLegal_iff]
  simp [builderFactory, Method.ownNames, statement]

@[simp]
theorem isLegal_clientFactory
    (flavour : Flavour)
    (javadoc : Option String) :
    (clientFactory n flavour javadoc).IsLegal := by
  rw [Method.isLegal_iff]
  simp [clientFactory, Method.ownNames, statement]

@[simp]
theorem isLegal_metadataFactory
    (endpointPrefix : String) :
    (metadataFactory endpointPrefix).IsLegal := by
  rw [Method.isLegal_iff]
  simp [metadataFactory, Method.ownNames, statement]

@[simp]
theorem isLegal_accessor_iff
    {name : String}
    {returned : ClassName} :
    (accessor name returned).IsLegal ↔
      isIdentifier name = true ∧ returned.IsLegal := by
  rw [Method.isLegal_iff]
  simp [accessor, Method.ownNames]

/- The interface of clients. -/
theorem piecesLegal_syncInterface
    {s : Service}
    {operations : List OperationTypes}
    {presigners : Option ClassName}
    (hOperations : ∀ types ∈ operations, types.IsLegal)
    (hPresigners : ∀ c ∈ presigners, c.IsLegal) :
    (syncInterface s n operations presigners
      ).PiecesLegal where
  annotations := by simp [syncInterface]
  typeVariables := by simp [syncInterface]
  superclass := by simp [syncInterface]
  superinterfaces := by simp [syncInterface]
  fields := by simp [syncInterface]
  methods := by
    have hDeclared :
        ∀ types ∈ operations,
          (declaredOperation .sync types).IsLegal :=
      fun types hMem =>
        isLegal_declaredOperation (hOperations types hMem) _
    cases hWaiters : s.hasWaiters <;>
      simpa [syncInterface, hWaiters, or_imp, forall_and]
        using ⟨hDeclared, hPresigners⟩

/- That of clients that return futures. -/
theorem piecesLegal_asyncInterface
    {operations : List OperationTypes}
    (hOperations : ∀ types ∈ operations, types.IsLegal) :
    (asyncInterface n operations).PiecesLegal where
  annotations := by simp [asyncInterface]
  typeVariables := by simp [asyncInterface]
  superclass := by simp [asyncInterface]
  superinterfaces := by simp [asyncInterface]
  fields := by simp [asyncInterface]
  methods := by
    have hDeclared :
        ∀ types ∈ operations,
          (declaredOperation .async types).IsLegal :=
      fun types hMem =>
        isLegal_declaredOperation (hOperations types hMem) _
    simpa [asyncInterface] using hDeclared

------------------------------------------------------------
-- Members of All Clients
------------------------------------------------------------

@[simp]
theorem isLegal_privateField_iff
    {type : TypeName}
    {name : String} :
    (privateField type name).IsLegal ↔
      isIdentifier name = true ∧ type.IsLegal :=
  Field.isLegal_plain_iff

@[simp]
theorem isLegal_protectedConstructor_iff
    {parameters : List Parameter}
    {body : List Part} :
    (protectedConstructor parameters body).IsLegal ↔
      (∀ p ∈ parameters, p.IsLegal) ∧
        ∀ p ∈ body, p.IsLegal := by
  rw [Method.isLegal_iff]
  simp [protectedConstructor, Method.ownNames]

/- Both constructors of a client. -/
theorem isLegal_clientConstructors
    {params : ClassName}
    {advanced : Option ClassName}
    {body : List Part}
    (hParams : params.IsLegal)
    (hAdvanced : ∀ c ∈ advanced, c.IsLegal)
    (hBody : ∀ p ∈ body, p.IsLegal) :
    ∀ m ∈ clientConstructors params advanced body,
      m.IsLegal := by
  cases advanced with
  | none => simpa [clientConstructors, hParams] using hBody
  | some advanced =>
      simpa [clientConstructors, statement, hParams]
        using ⟨by simpa using hAdvanced, hBody⟩

@[simp]
theorem isLegal_implemented_iff
    {name : String}
    {returned : TypeName}
    {parameters : List Parameter}
    {body : List Part} :
    (implemented name returned parameters body).IsLegal ↔
      isIdentifier name = true ∧ returned.IsLegal ∧
        (∀ p ∈ parameters, p.IsLegal) ∧
        ∀ p ∈ body, p.IsLegal := by
  rw [Method.isLegal_iff]
  simp [implemented, Method.ownNames, Annotation.overriding]

@[simp]
theorem isLegal_closing
    (name : String) :
    (closing name).IsLegal := by
  rw [Method.isLegal_iff]
  simp [closing, implemented, Method.ownNames, statement,
    Annotation.overriding]

------------------------------------------------------------
-- Statements of Operations
------------------------------------------------------------

/- The type of what a handler makes. -/
theorem isLegal_handled
    (hTypes : types.IsLegal)
    (envelope : Envelope) :
    (envelope.handled types.response).IsLegal := by
  cases envelope <;>
    simp [Envelope.handled, hTypes.response]

/- The last statement of an operation. -/
theorem isLegal_executionCall
    (hTypes : types.IsLegal)
    (envelope : Envelope)
    (argument : String) :
    ∀ p ∈ executionCall types envelope argument,
      p.IsLegal := by
  have hHandled := isLegal_handled hTypes envelope
  simp [executionCall, continued, hTypes.request,
    hTypes.marshaller, hHandled]

/-
  The classes of a factory are those of the kit or named
  after the service.
-/
theorem Strategy.isLegal_factory
    {t : Strategy}
    {f : Factory}
    (hFactory : t.factory? = some f) :
    f.type.IsLegal ∧ f.error.IsLegal := by
  unfold factory? at hFactory
  cases hKind : t.kind <;> simp [hKind] at hFactory
  · subst hFactory
    simp [Factory.shared]
  · subst hFactory
    simp [Factory.ofGateway]

/- The handlers of responses and of errors. -/
theorem Strategy.isLegal_responseHandler
    (t : Strategy)
    (hTypes : types.IsLegal) :
    ∀ p ∈ t.responseHandler types, p.IsLegal := by
  unfold responseHandler
  cases t.factory? with
  | none =>
      simp [Xml.responseHandler, continued, hTypes.response,
        hTypes.unmarshaller]
  | some f =>
      have hHandled := isLegal_handled hTypes f.envelope
      simp [Factory.responseHandler, continued, handlerOf,
        hTypes.unmarshaller, hHandled]

@[simp]
theorem isLegal_xmlErrorHandler :
    ∀ p ∈ Xml.errorHandler, p.IsLegal := by
  simp [Xml.errorHandler, statement]

theorem Strategy.isLegal_errorHandler
    (t : Strategy) :
    ∀ p ∈ t.errorHandler, p.IsLegal := by
  unfold errorHandler
  cases hFactory : t.factory? with
  | none => exact isLegal_xmlErrorHandler
  | some f =>
      simp [delegatedErrorHandler, statement, handlerOf,
        isLegal_factory hFactory]

/- The call of an operation. -/
theorem Strategy.isLegal_executionCall
    (t : Strategy)
    (hTypes : types.IsLegal) :
    ∀ p ∈ t.executionCall types, p.IsLegal := by
  unfold executionCall
  cases t.factory? with
  | none => exact Client.isLegal_executionCall hTypes _ _
  | some f => exact Client.isLegal_executionCall hTypes _ _

/- An operation as the client carries it out. -/
theorem isLegal_implementedOperation
    (t : Strategy)
    (hTypes : types.IsLegal) :
    (implementedOperation t types).IsLegal := by
  have hParameter := isLegal_parameter hTypes
  simpa [implementedOperation, types.method.valid,
      hTypes.response, hParameter, or_imp, forall_and]
    using ⟨t.isLegal_responseHandler hTypes,
      t.isLegal_errorHandler, t.isLegal_executionCall hTypes⟩

------------------------------------------------------------
-- Members of a Protocol
------------------------------------------------------------

/- The field that holds what the protocol needs. -/
@[simp]
theorem Strategy.isLegal_field
    (t : Strategy) :
    t.field.IsLegal := by
  unfold Strategy.field
  cases hFactory : t.factory? with
  | none => simp [Xml.field, Xml.unmarshallerList]
  | some f =>
      simp [Factory.field, isLegal_factory hFactory]

/- The class that executes requests. -/
@[simp]
theorem Strategy.isLegal_handlerClass
    (t : Strategy) :
    t.handlerClass.IsLegal := by
  unfold Strategy.handlerClass
  cases t.kind <;> simp

/- The method that makes handlers of errors. -/
theorem Strategy.isLegal_helper
    (t : Strategy) :
    ∀ m ∈ t.helper, m.IsLegal := by
  unfold Strategy.helper
  cases hFactory : t.factory? with
  | none => simp
  | some f =>
      have hFactoryLegal := isLegal_factory hFactory
      simp only [Option.map_some, Option.mem_some_iff,
        forall_eq']
      rw [Method.isLegal_iff]
      cases hShapes : f.takesErrorShapes <;>
        simp [Factory.helper, Factory.errorShapes, handlerOf,
          Method.ownNames, statement, hShapes, hFactoryLegal]

/- The lines that a factory is told. -/
theorem JsonSettings.isLegal_lines
    {settings : JsonSettings}
    (hBase : settings.baseException.IsLegal)
    (hExceptions :
      ∀ e ∈ settings.exceptions, e.IsLegal) :
    ∀ p ∈ settings.lines, p.IsLegal := by
  have hParts :
      ∀ parts ∈ settings.parts, ∀ p ∈ parts, p.IsLegal := by
    simp only [JsonSettings.parts, List.forall_mem_append,
      List.forall_mem_map]
    refine ⟨⟨?_, ?_⟩, ?_⟩
    · simp [required, hBase]
    · simp [contentTypeOverride]
    · intro e hMem
      simp [errorRegistration, (hExceptions e hMem).exception]
  unfold lines
  rw [← isLegal_iff]
  apply isLegal_join
  intro code hMem
  rcases List.mem_map.mp hMem with ⟨parts, hIn, rfl⟩
  exact isLegal_ofParts_iff.mpr (hParts parts hIn)

/- The method that gives the protocol's field its value. -/
theorem Strategy.isLegal_initializer
    {t : Strategy}
    {m : Method}
    (hInitializer : t.initializer = .ok m) :
    m.IsLegal := by
  rcases initializer_cases hInitializer with
    ⟨factory, settings, hFactory, hSettings, rfl⟩ |
      ⟨exceptions, hFactory, hExceptions, rfl⟩
  · rcases of_settings hSettings with ⟨hBase, hExceptions⟩
    have hLines :=
      JsonSettings.isLegal_lines
        (hBase ▸ t.names.isLegal_baseException)
        (Names.isLegal_of_exceptions hExceptions)
    rw [Method.isLegal_iff]
    simpa [Factory.initializer, Method.ownNames, continued,
        isLegal_factory hFactory, or_imp, forall_and]
      using hLines
  · have hAdded :
        ∀ p ∈ exceptions.flatMap Xml.errorRegistration,
          p.IsLegal := by
      rw [List.forall_mem_flatMap]
      intro e hE
      have hLegal :=
        Names.isLegal_of_exceptions hExceptions e hE
      simp [Xml.errorRegistration, statement,
        hLegal.unmarshaller]
    rw [Method.isLegal_iff]
    simpa [Xml.initializer, Xml.unmarshallerList,
      Method.ownNames, statement, or_imp, forall_and]
      using hAdded

/- The method that makes dry runs. -/
theorem DryRun.isLegal_method
    (n : Names) :
    (DryRun.method n).IsLegal := by
  have hResult :
      (n.modelClass "DryRunResult").IsLegal :=
    n.isLegal_modelClass (by decide)
  have hRequest :
      (n.modelClass "DryRunSupportedRequest").IsLegal :=
    n.isLegal_modelClass (by decide)
  rw [Method.isLegal_iff]
  simp [DryRun.method, resultType, sentRequest, voidClass,
    preparation, program, signals, Statement.parts, allParts,
    testParts, executionParts, Signal.test, Xml.errorHandler,
    Method.ownNames, statement, block, followed, continued,
    hResult, hRequest]

/- The methods that only one protocol has. -/
theorem Strategy.isLegal_additional
    (t : Strategy) :
    ∀ m ∈ t.additional, m.IsLegal := by
  unfold Strategy.additional
  cases t.kind <;> simp [DryRun.isLegal_method]

------------------------------------------------------------
-- Clients
------------------------------------------------------------

/- The method that makes the waiters once. -/
theorem isLegal_lazyWaiters :
    (lazyWaiters n.waiters).IsLegal := by
  simp [lazyWaiters, statement, block]

/- The method that makes presigners. -/
theorem isLegal_newPresigners
    {presigners : ClassName}
    (hPresigners : presigners.IsLegal) :
    (newPresigners presigners).IsLegal := by
  simp [newPresigners, continued, hPresigners]

/-
  The parts of a client whose names have all been checked
  can be named.
-/
structure SyncParts.IsLegal (p : SyncParts) : Prop where
  advanced : ∀ c ∈ p.advanced, c.IsLegal
  presigners : ∀ c ∈ p.presigners, c.IsLegal
  operations : ∀ types ∈ p.operations, types.IsLegal
  initializer : p.initializer.IsLegal

theorem SyncParts.Checked.isLegal
    {s : Service}
    {p : SyncParts}
    (hParts : Checked s p) :
    p.IsLegal where
  advanced :=
    isLegal_of_mapM_resolveClass
      p.strategy.names.package.valid hParts.advanced
  presigners := by
    have hBelow : isQualifiedName "presign" = true := by
      decide
    have hPresign :=
      isQualifiedName_append p.strategy.names.package.valid
        hBelow
    rw [String.append_assoc] at hPresign
    exact isLegal_of_mapM_resolveClass hPresign
      hParts.presigners
  operations := Names.isLegal_of_operations hParts.operations
  initializer := Strategy.isLegal_initializer hParts.initializer

/- The synchronous client. -/
theorem SyncParts.IsLegal.declaration
    {p : SyncParts}
    (hParts : p.IsLegal) :
    p.declaration.PiecesLegal where
  annotations := by simp [SyncParts.declaration]
  typeVariables := by simp [SyncParts.declaration]
  superclass := by simp [SyncParts.declaration]
  superinterfaces := by simp [SyncParts.declaration]
  fields := by
    have hAdvanced := hParts.advanced
    cases hWaiters : p.strategy.service.hasWaiters <;>
      simpa [SyncParts.declaration, SyncParts.fields,
        syncFields, hWaiters, or_imp, forall_and]
        using hAdvanced
  methods := by
    have hInitialization :
        ∀ part ∈ p.initialization, part.IsLegal := by
      unfold SyncParts.initialization SyncParts.handlerSettings
      cases p.advanced.isSome <;>
        simp [continued, assign, statement]
    have hConstructors : ∀ m ∈ p.constructors, m.IsLegal :=
      isLegal_clientConstructors (by simp) hParts.advanced
        hInitialization
    have hOperations :
        ∀ types ∈ p.operations,
          (implementedOperation p.strategy types).IsLegal :=
      fun types hMem =>
        isLegal_implementedOperation p.strategy
          (hParts.operations types hMem)
    have hPresigners :
        ∀ c ∈ p.presigners, (newPresigners c).IsLegal :=
      fun c hMem =>
        isLegal_newPresigners (hParts.presigners c hMem)
    have hWaiters :
        ∀ m ∈ (if p.strategy.service.hasWaiters then
            [lazyWaiters p.strategy.names.waiters]
            else []),
          m.IsLegal := by
      cases p.strategy.service.hasWaiters <;>
        simp [isLegal_lazyWaiters]
    simp only [SyncParts.declaration, SyncParts.methods,
      List.forall_mem_append, List.forall_mem_map,
      List.forall_mem_singleton]
    exact ⟨⟨⟨⟨⟨⟨⟨hConstructors, hOperations⟩,
        by simpa using p.strategy.isLegal_helper⟩,
      hParts.initializer⟩, hWaiters⟩,
      by simpa using hPresigners⟩,
      isLegal_closing clientHandlerField⟩,
      p.strategy.isLegal_additional⟩

/- The asynchronous client. -/
theorem piecesLegal_asyncClient
    {advanced : Option ClassName}
    {operations : List OperationTypes}
    (hAdvanced : ∀ c ∈ advanced, c.IsLegal)
    (hOperations : ∀ types ∈ operations, types.IsLegal) :
    (asyncClient n advanced operations).PiecesLegal where
  annotations := by simp [asyncClient]
  typeVariables := by simp [asyncClient]
  superclass := by simp [asyncClient]
  superinterfaces := by simp [asyncClient]
  fields := by simp [asyncClient]
  methods := by
    have hInitialization :
        ∀ part ∈ asyncInitialization n advanced,
          part.IsLegal := by
      simp [asyncInitialization, assign, statement]
    have hConstructors :
        ∀ m ∈ clientConstructors Sdk.awsAsyncClientParams
            advanced (asyncInitialization n advanced),
          m.IsLegal :=
      isLegal_clientConstructors (by simp) hAdvanced
        hInitialization
    have hDelegated :
        ∀ types ∈ operations,
          (delegatedOperation types).IsLegal := by
      intro types hMem
      have hTypes := hOperations types hMem
      simp [delegatedOperation, statement,
        types.method.valid, isLegal_returned hTypes,
        isLegal_parameter hTypes]
    simp only [asyncClient, List.forall_mem_append,
      List.forall_mem_map, List.forall_mem_singleton]
    exact ⟨⟨hConstructors, hDelegated⟩,
      isLegal_closing syncClientField⟩

------------------------------------------------------------
-- Builders
------------------------------------------------------------

@[simp]
theorem isLegal_finalMethod_iff
    {name : String}
    {returned : TypeName}
    {parameters : List Parameter}
    {body : List Part} :
    (finalMethod name returned parameters body).IsLegal ↔
      isIdentifier name = true ∧ returned.IsLegal ∧
        (∀ p ∈ parameters, p.IsLegal) ∧
        ∀ p ∈ body, p.IsLegal := by
  rw [Method.isLegal_iff]
  simp [finalMethod, Method.ownNames]

@[simp]
theorem isLegal_finalOverride_iff
    {name : String}
    {returned : TypeName}
    {body : List Part} :
    (finalOverride name returned body).IsLegal ↔
      isIdentifier name = true ∧ returned.IsLegal ∧
        ∀ p ∈ body, p.IsLegal := by
  rw [Method.isLegal_iff]
  simp [finalOverride, finalMethod, Method.ownNames,
    Annotation.overriding]

@[simp]
theorem isLegal_advancedParameter_iff
    {advanced : ClassName} :
    (advancedParameter advanced).IsLegal ↔
      advanced.IsLegal := by
  simp [advancedParameter]

/- The method that makes the defaults of a service. -/
theorem isLegal_serviceDefaults
    (m : Metadata)
    (n : Names) :
    (serviceDefaults m n).IsLegal := by
  have hSigner : ∀ p ∈ signer m, p.IsLegal := by
    unfold signer
    cases m.signatureVersion <;> simp [statement]
  have hSecurity : ∀ p ∈ securityDefaults m, p.IsLegal := by
    simpa [securityDefaults, overridingMark, block, statement,
      or_imp, forall_and] using hSigner
  have hListener : ∀ p ∈ listenerDefaults n, p.IsLegal := by
    simp [listenerDefaults, overridingMark, block, statement,
      chainedHandlers]
  simpa [serviceDefaults, or_imp, forall_and]
    using ⟨hSecurity, hListener⟩

/- The methods that set and get the configuration. -/
theorem isLegal_configurationMethods
    {advanced : ClassName}
    (hAdvanced : advanced.IsLegal) :
    ∀ m ∈ configurationMethods advanced, m.IsLegal := by
  simp only [configurationMethods, List.forall_mem_cons]
  refine ⟨?_, ?_, by simp⟩
  · rw [Method.isLegal_iff]
    simp [Method.ownNames, builderVariable, statement,
      hAdvanced]
  · simp [statement, hAdvanced]

/- The builder that both builders extend. -/
theorem piecesLegal_baseBuilder
    {s : Service}
    {advanced : Option ClassName}
    (hAdvanced : ∀ c ∈ advanced, c.IsLegal) :
    (baseBuilder s n advanced).PiecesLegal where
  annotations := by simp [baseBuilder]
  typeVariables := by
    simp [baseBuilder, anyBuilder, builderVariable,
      clientVariable]
  superclass := by
    simp [baseBuilder, builderVariable, clientVariable]
  superinterfaces := by
    simp [baseBuilder, anyBuilder, builderVariable,
      clientVariable]
  fields := by simpa [baseBuilder] using hAdvanced
  methods := by
    have hEndpoint : (endpointPrefix s.metadata).IsLegal := by
      simp [endpointPrefix, statement]
    have hHttp :
        ∀ expression, (httpConfig expression).IsLegal := by
      simp [httpConfig, statement]
    have hConfiguration :
        ∀ m ∈ advanced.elim [] configurationMethods,
          m.IsLegal := by
      cases advanced with
      | none => simp
      | some c =>
          exact isLegal_configurationMethods (hAdvanced c rfl)
    simp only [baseBuilder, List.forall_mem_append,
      List.forall_mem_cons, List.forall_mem_map]
    exact ⟨⟨⟨hEndpoint,
      isLegal_serviceDefaults s.metadata n, by simp⟩,
      fun expression _ => hHttp expression⟩, hConfiguration⟩

/- The interface of builders. -/
theorem piecesLegal_builderInterface
    {flavour : Flavour}
    {advanced : Option ClassName}
    (hAdvanced : ∀ c ∈ advanced, c.IsLegal) :
    (builderInterface n flavour advanced).PiecesLegal where
  annotations := by simp [builderInterface]
  typeVariables := by simp [builderInterface]
  superclass := by simp [builderInterface]
  superinterfaces := by simp [builderInterface]
  fields := by simp [builderInterface]
  methods := by
    have hSetter :
        ∀ c ∈ advanced,
          (configurationSetter (n.builderInterface flavour)
            c).IsLegal := by
      intro c hMem
      rw [Method.isLegal_iff]
      simp [configurationSetter, Method.ownNames,
        hAdvanced c hMem]
    simpa [builderInterface] using hSetter

/- A builder of either flavour. -/
theorem piecesLegal_builderClass
    {flavour : Flavour}
    {methods : List Method}
    (hMethods : ∀ m ∈ methods, m.IsLegal) :
    (builderClass n flavour methods).PiecesLegal where
  annotations := by simp [builderClass]
  typeVariables := by simp [builderClass]
  superclass := by simp [builderClass]
  superinterfaces := by simp [builderClass]
  fields := by simp [builderClass]
  methods := hMethods

/- The builder of synchronous clients. -/
theorem piecesLegal_syncBuilder
    {advanced : Option ClassName}
    (hAdvanced : ∀ c ∈ advanced, c.IsLegal) :
    (syncBuilder n advanced).PiecesLegal := by
  apply piecesLegal_builderClass
  have hBuild : (buildSyncClient n advanced).IsLegal := by
    cases advanced <;> simp [buildSyncClient, statement]
  have hConfigured :
      ∀ c ∈ advanced,
        (buildConfiguredClient n c).IsLegal := by
    intro c hMem
    simp [buildConfiguredClient, statement,
      hAdvanced c hMem]
  simpa using ⟨hBuild, hConfigured⟩

/- The builder of asynchronous clients. -/
theorem piecesLegal_asyncBuilder
    {advanced : Option ClassName} :
    (asyncBuilder n advanced).PiecesLegal := by
  apply piecesLegal_builderClass
  simp [buildAsyncClient, statement]

------------------------------------------------------------
-- The Family
------------------------------------------------------------

/- Every type of the family is safe. -/
theorem Role.lexicallySafe_declare
    {p : SyncParts}
    (hParts : p.IsLegal)
    (role : Role) :
    (role.declare p).LexicallySafe := by
  have hName : isIdentifier (role.declare p).name = true := by
    rw [role.name_declare]
    exact p.strategy.names.isIdentifier_simpleName role
  apply TypeDecl.lexicallySafe_of_pieces hName
  cases role with
  | syncInterface =>
      exact piecesLegal_syncInterface hParts.operations
        hParts.presigners
  | syncClient => exact hParts.declaration
  | asyncInterface =>
      exact piecesLegal_asyncInterface hParts.operations
  | asyncClient =>
      exact piecesLegal_asyncClient hParts.advanced
        hParts.operations
  | baseBuilder =>
      exact piecesLegal_baseBuilder hParts.advanced
  | syncBuilderInterface =>
      exact piecesLegal_builderInterface hParts.advanced
  | syncBuilder =>
      exact piecesLegal_syncBuilder hParts.advanced
  | asyncBuilderInterface =>
      exact piecesLegal_builderInterface hParts.advanced
  | asyncBuilder => exact piecesLegal_asyncBuilder

/-
  Whenever clients are generated, all names in their types
  are identifiers and all classes are named by identifiers,
  packages included, whatever the texts of the model are.
-/
theorem generate_lexicallySafe
    {s : Service}
    {emitter : Emitter}
    {files : List GeneratedFile}
    (hFiles : generate s emitter = .ok files) :
    ∃ declare, Family s emitter files declare ∧
      ∀ role, (declare role).LexicallySafe := by
  rcases exists_parts_of_generate hFiles with
    ⟨p, hParts, hFamily⟩
  exact ⟨Role.declare p, hFamily,
    Role.lexicallySafe_declare hParts.isLegal⟩

/- The types of the bookshop are safe. -/
theorem generate_lexicallySafe_bookshop :
    ∃ files declare,
      generate bookshop Emitter.standard = .ok files ∧
        Family bookshop Emitter.standard files declare ∧
        ∀ role, (declare role).LexicallySafe := by
  rcases exists_generate_bookshop Emitter.standard with
    ⟨files, hFiles⟩
  rcases generate_lexicallySafe hFiles with
    ⟨declare, hFamily, hSafe⟩
  exact ⟨files, declare, hFiles, hFamily, hSafe⟩

end ClientGen.Client
