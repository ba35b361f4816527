import ClientGen.Proofs.Client.ProtocolIndependence

/-
  Interfaces and the clients that implement them offer the
  same methods.

  Main declarations include:
    * `Signature`
    * `TypeDecl.offered`
    * `TypeDecl.provided`
    * `operationSignature`
    * `SignaturesAgree`
    * `generate_signaturesAgree`

  A client has methods of its own besides those it provides.
  They take no request, or are no methods by name, and so are
  never taken for an operation.
-/

namespace ClientGen.Java

------------------------------------------------------------
-- Signatures
------------------------------------------------------------

/- What callers of a method have to know. -/
structure Signature where
  name : String
  parameters : List (TypeName × String)
  returns : TypeName
  deriving DecidableEq, Repr

/-
  Whether a method with the signature takes a request: it
  is no constructor, and takes an object of a plain class.
-/
def Signature.takesRequest
    (sig : Signature) :
    Bool :=
  sig.name != "<init>" &&
    match sig.parameters with
    | [(.class _, _)] => true
    | _ => false

namespace Method

/- The signature of a method. -/
def signature
    (m : Method) :
    Signature where
  name := m.name
  parameters := m.parameters.map fun p => (p.type, p.name)
  returns := m.returns

/- Whether the method belongs to the type itself. -/
def isStatic
    (m : Method) :
    Bool :=
  m.modifiers.contains .static

/- Whether the method is marked to override another. -/
def overrides
    (m : Method) :
    Bool :=
  m.annotations.contains Annotation.overriding

/- Whether the method is the one that closes a resource. -/
def closes
    (m : Method) :
    Bool :=
  m.name == "close" && m.parameters.isEmpty

/- Whether the method is provided for others to call. -/
def provides
    (m : Method) :
    Bool :=
  m.overrides && !m.closes

end Method

/- The signatures of methods, of those that are kept. -/
def keptSignatures
    (keep : Method → Bool)
    (methods : List Method) :
    List Signature :=
  (methods.filter keep).map Method.signature

namespace TypeDecl

/- What an interface offers: all that is not static. -/
def offered
    (d : TypeDecl) :
    List Signature :=
  keptSignatures (fun m => !m.isStatic) d.methods

/- What a class provides for others, closing it excepted. -/
def provided
    (d : TypeDecl) :
    List Signature :=
  keptSignatures Method.provides d.methods

/- Those of its methods that have one of the signatures. -/
def having
    (d : TypeDecl)
    (signatures : List Signature) :
    List Signature :=
  keptSignatures (fun m => signatures.contains m.signature)
    d.methods

end TypeDecl

end ClientGen.Java

namespace ClientGen.Client

open ClientGen.Java ClientGen.Model

------------------------------------------------------------
-- Signatures of a Service
------------------------------------------------------------

/- The signature of an operation, as the model names it. -/
def operationSignature
    (m : Metadata)
    (o : Operation) :
    Signature where
  name := o.methodName
  parameters :=
    [(.class (ClassName.inPackage m.modelPackage o.input.type),
      o.input.name)]
  returns :=
    .class (ClassName.inPackage m.modelPackage o.returnType)

/- The signature of a method that gives access to a class. -/
def accessorSignature
    (name : String)
    (c : ClassName) :
    Signature :=
  ⟨name, [], .class c⟩

/- The same method with a result that is still to come. -/
def Signature.inFuture
    (sig : Signature) :
    Signature :=
  { sig with
    returns := .generic Sdk.completableFuture [sig.returns] }

/- The signatures of all operations, in order. -/
def operationSignatures
    (s : Service) :
    List Signature :=
  s.operations.values.map (operationSignature s.metadata)

/- Those of the waiters and presigners that are declared. -/
def accessorSignatures
    (s : Service)
    (waiters : ClassName)
    (presigners : Option ClassName) :
    List Signature :=
  (if s.hasWaiters then
    [accessorSignature waitersAccessor waiters]
    else []) ++
  presigners.toList.map (accessorSignature presignersAccessor)

/-
  Interfaces and clients agree: each pair on what the one
  offers and the other provides, both pairs on operations,
  and every type has each operation once and in its place.
-/
structure SignaturesAgree
    (s : Service)
    (waiters : ClassName)
    (presigners : Option ClassName)
    (declare : Role → TypeDecl) :
    Prop where
  syncOffered :
    (declare .syncInterface).offered =
      operationSignatures s ++
        accessorSignatures s waiters presigners
  syncProvided :
    (declare .syncClient).provided =
      (declare .syncInterface).offered
  asyncOffered :
    (declare .asyncInterface).offered =
      (operationSignatures s).map Signature.inFuture
  asyncProvided :
    (declare .asyncClient).provided =
      (declare .asyncInterface).offered
  syncOnce :
    ∀ role ∈ [Role.syncInterface, .syncClient],
      (declare role).having (operationSignatures s) =
        operationSignatures s
  asyncOnce :
    ∀ role ∈ [Role.asyncInterface, .asyncClient],
      (declare role).having
          ((operationSignatures s).map Signature.inFuture) =
        (operationSignatures s).map Signature.inFuture

------------------------------------------------------------
-- Operations
------------------------------------------------------------

/- The signature of an operation with checked names. -/
def OperationTypes.signature
    (types : OperationTypes)
    (flavour : Flavour) :
    Signature where
  name := types.method.text
  parameters := [(.class types.request, types.input.text)]
  returns := flavour.returned types.response

/- It is that of the model. -/
theorem OperationTypes.Matches.signature_eq
    {s : Service}
    {n : Names}
    {o : Operation}
    {types : OperationTypes}
    (hNames : Names.ofService s = .ok n)
    (hTypes : types.Matches n o) :
    types.signature .sync = operationSignature s.metadata o := by
  unfold signature operationSignature
  rw [hTypes.method, hTypes.input, hTypes.request,
    Flavour.returned, hTypes.response,
    Names.modelClass_eq hNames, Names.modelClass_eq hNames]

/- All operations together have those of the model. -/
theorem SyncParts.Checked.map_signature_eq
    {s : Service}
    {p : SyncParts}
    (hParts : Checked s p) :
    p.operations.map (·.signature .sync) =
      operationSignatures s :=
  map_eq_of_mapM_eq_ok
    (fun _ _ hTypes =>
      (Names.matches_of_operation hTypes).signature_eq
        hParts.strategy_eq.1)
    hParts.operations

/- An asynchronous operation returns a future. -/
theorem map_signature_async
    (operations : List OperationTypes) :
    operations.map (·.signature .async) =
      (operations.map (·.signature .sync)).map
        Signature.inFuture := by
  rw [List.map_map]
  rfl

------------------------------------------------------------
-- Methods That Are Offered or Provided
------------------------------------------------------------

/- What is marked to override is marked so. -/
@[simp]
theorem overrides_implemented
    (name : String)
    (returned : TypeName)
    (parameters : List Parameter)
    (body : List Code.Part) :
    (implemented name returned parameters body).overrides =
      true := by
  simp [Method.overrides, implemented]

/- No constructor is. -/
theorem overrides_of_mem_clientConstructors
    {params : ClassName}
    {advanced : Option ClassName}
    {body : List Code.Part} :
    ∀ m ∈ clientConstructors params advanced body,
      m.overrides = false := by
  cases advanced with
  | none => simp [clientConstructors, protectedConstructor,
      Method.overrides]
  | some advanced => simp [clientConstructors,
      protectedConstructor, Method.overrides]

/- The method that makes handlers of errors is not. -/
theorem overrides_of_mem_helper
    (t : Strategy) :
    ∀ m ∈ t.helper.toList, m.overrides = false := by
  unfold Strategy.helper
  cases t.factory? with
  | none => simp
  | some factory => simp [Factory.helper, Method.overrides]

/- Nor is a method that only one protocol has. -/
theorem overrides_of_mem_additional
    (t : Strategy) :
    ∀ m ∈ t.additional, m.overrides = false := by
  unfold Strategy.additional
  cases t.kind <;> simp [DryRun.method, Method.overrides]

/- An initializer overrides nothing and takes nothing. -/
theorem Strategy.initializer_plain
    {t : Strategy}
    {m : Method}
    (hInitializer : t.initializer = .ok m) :
    m.overrides = false ∧ m.parameters = [] := by
  rcases initializer_cases hInitializer with
    ⟨_, _, _, _, rfl⟩ | ⟨_, _, _, rfl⟩
  · exact ⟨rfl, rfl⟩
  · exact ⟨rfl, rfl⟩

------------------------------------------------------------
-- Methods That Take Requests
------------------------------------------------------------

/- An operation takes a request. -/
@[simp]
theorem takesRequest_operation
    (types : OperationTypes)
    (flavour : Flavour) :
    (types.signature flavour).takesRequest = true := by
  have hName : types.method.text ≠ "<init>" := by
    intro hEq
    have hValid := types.method.valid
    rw [hEq] at hValid
    exact absurd hValid (by decide)
  simp [Signature.takesRequest, OperationTypes.signature,
    hName]

/- Constructors have no name that an operation could have. -/
theorem takesRequest_of_mem_clientConstructors
    {params : ClassName}
    {advanced : Option ClassName}
    {body : List Code.Part} :
    ∀ m ∈ clientConstructors params advanced body,
      m.signature.takesRequest = false := by
  cases advanced with
  | none => simp [clientConstructors, protectedConstructor,
      Signature.takesRequest, Method.signature, Method.name]
  | some advanced => simp [clientConstructors,
      protectedConstructor, Signature.takesRequest,
      Method.signature, Method.name]

/- A method without parameters takes no request. -/
theorem takesRequest_of_parameters_nil
    {m : Method}
    (hParameters : m.parameters = []) :
    m.signature.takesRequest = false := by
  simp [Signature.takesRequest, Method.signature, hParameters]

/- The method that makes handlers takes at most an array. -/
theorem takesRequest_of_mem_helper
    (t : Strategy) :
    ∀ m ∈ t.helper.toList, m.signature.takesRequest = false := by
  unfold Strategy.helper
  cases t.factory? with
  | none => simp
  | some factory =>
      intro m hMem
      cases List.mem_singleton.mp hMem
      unfold Signature.takesRequest Method.signature
        Factory.helper
      cases factory.takesErrorShapes <;> rfl

/- A request for a dry run is of a generic class. -/
theorem takesRequest_of_mem_additional
    (t : Strategy) :
    ∀ m ∈ t.additional, m.signature.takesRequest = false := by
  unfold Strategy.additional
  cases t.kind with
  | ec2 =>
      intro m hMem
      cases List.mem_singleton.mp hMem
      rfl
  | json => simp
  | queryXml => simp
  | apiGateway => simp

------------------------------------------------------------
-- Kept Methods
------------------------------------------------------------

section

variable {keep : Method → Bool}

@[simp]
theorem keptSignatures_append
    (a b : List Method) :
    keptSignatures keep (a ++ b) =
      keptSignatures keep a ++ keptSignatures keep b := by
  simp [keptSignatures]

/- Methods of which none is kept leave no signature. -/
theorem keptSignatures_eq_nil
    {methods : List Method}
    (hNone : ∀ m ∈ methods, keep m = false) :
    keptSignatures keep methods = [] := by
  unfold keptSignatures
  rw [List.filter_eq_nil_iff.mpr, List.map_nil]
  intro m hMem hKeep
  rw [hNone m hMem] at hKeep
  cases hKeep

/- Methods that are all kept leave all their signatures. -/
theorem keptSignatures_map
    {α : Type}
    {f : α → Method}
    {as : List α}
    (hAll : ∀ a ∈ as, keep (f a) = true) :
    keptSignatures keep (as.map f) =
      as.map fun a => (f a).signature := by
  unfold keptSignatures
  rw [List.filter_eq_self.mpr, List.map_map]
  · rfl
  · intro m hMem
    rcases List.mem_map.mp hMem with ⟨a, hA, rfl⟩
    exact hAll a hA

end

/-
  Among methods of which only those in the middle take
  requests, these are the ones with their signatures.
-/
theorem having_eq
    {α : Type}
    {d : TypeDecl}
    {f : α → Method}
    {as : List α}
    (before after : List Method)
    (hMethods : d.methods = before ++ as.map f ++ after)
    (hTakes : ∀ a, (f a).signature.takesRequest = true)
    (hBefore :
      ∀ m ∈ before, m.signature.takesRequest = false)
    (hAfter :
      ∀ m ∈ after, m.signature.takesRequest = false) :
    d.having (as.map fun a => (f a).signature) =
      as.map fun a => (f a).signature := by
  let signatures := as.map fun a => (f a).signature
  let keep : Method → Bool :=
    fun m => signatures.contains m.signature
  have hNone :
      ∀ methods : List Method,
        (∀ m ∈ methods, m.signature.takesRequest = false) →
        keptSignatures keep methods = [] := by
    intro methods hMethods
    apply keptSignatures_eq_nil
    intro m hMem
    rw [← Bool.not_eq_true, List.contains_iff_mem]
    intro hIn
    rcases List.mem_map.mp hIn with ⟨a, _, hEq⟩
    have hRequest := hTakes a
    rw [hEq, hMethods m hMem] at hRequest
    cases hRequest
  have hAll :
      keptSignatures keep (as.map f) = signatures := by
    unfold keptSignatures
    rw [List.filter_eq_self.mpr, List.map_map]
    · rfl
    · intro m hMem
      rcases List.mem_map.mp hMem with ⟨a, hA, rfl⟩
      exact List.contains_iff_mem.mpr
        (List.mem_map_of_mem hA)
  unfold TypeDecl.having
  rw [hMethods, keptSignatures_append, keptSignatures_append,
    hNone before hBefore, hNone after hAfter, hAll,
    List.nil_append, List.append_nil]

------------------------------------------------------------
-- Offered and Provided Methods
------------------------------------------------------------

/- An interface offers operations and accessors. -/
theorem offered_syncInterface
    (s : Service)
    (n : Names)
    (operations : List OperationTypes)
    (presigners : Option ClassName) :
    (syncInterface s n operations presigners).offered =
      operations.map (·.signature .sync) ++
        accessorSignatures s n.waiters presigners := by
  let keep : Method → Bool := fun m => !m.isStatic
  have hFactories :
      keptSignatures keep
        [builderFactory n .sync
            (some (builderFactoryJavadoc
              n.syncInterface.simple)),
          clientFactory n .sync
            (some (clientFactoryJavadoc
              n.syncInterface.simple))] = [] :=
    rfl
  have hMetadata :
      keptSignatures keep
        [metadataFactory s.metadata.endpointPrefix] = [] :=
    rfl
  have hWaiters :
      keptSignatures keep
          (if s.hasWaiters then
            [accessor waitersAccessor n.waiters]
            else []) =
        if s.hasWaiters then
          [accessorSignature waitersAccessor n.waiters]
        else [] := by
    cases s.hasWaiters <;> rfl
  unfold TypeDecl.offered syncInterface accessorSignatures
  simp only [keptSignatures_append, keep] at *
  rw [hFactories, hMetadata, hWaiters,
    keptSignatures_map fun _ _ => rfl,
    keptSignatures_map fun _ _ => rfl,
    List.nil_append, List.append_nil, List.append_assoc]
  rfl

/- The interface of futures offers operations alone. -/
theorem offered_asyncInterface
    (n : Names)
    (operations : List OperationTypes) :
    (asyncInterface n operations).offered =
      operations.map (·.signature .async) := by
  unfold TypeDecl.offered asyncInterface
  rw [keptSignatures_append,
    keptSignatures_map fun _ _ => rfl]
  rfl

/- What does not override is not provided. -/
theorem keptSignatures_provides_eq_nil
    {methods : List Method}
    (hNone : ∀ m ∈ methods, m.overrides = false) :
    keptSignatures Method.provides methods = [] := by
  apply keptSignatures_eq_nil
  intro m hMem
  rw [Method.provides, hNone m hMem, Bool.false_and]

/- What implements a method with a parameter is provided. -/
theorem provides_implemented
    (name : String)
    (returned : TypeName)
    (parameter : Parameter)
    (body : List Code.Part) :
    (implemented name returned [parameter] body).provides =
      true := by
  rw [Method.provides, overrides_implemented]
  simp [Method.closes, implemented]

/- So every operation is, whatever it is called. -/
theorem provides_implementedOperation
    (t : Strategy)
    (types : OperationTypes) :
    (implementedOperation t types).provides = true :=
  provides_implemented _ _ _ _

theorem provides_delegatedOperation
    (types : OperationTypes) :
    (delegatedOperation types).provides = true :=
  provides_implemented _ _ _ _

/- The client provides operations and accessors. -/
theorem provided_declaration
    {p : SyncParts}
    (hInitializer :
      p.strategy.initializer = .ok p.initializer) :
    p.declaration.provided =
      p.operations.map (·.signature .sync) ++
        accessorSignatures p.strategy.service
          p.strategy.names.waiters p.presigners := by
  have hConstructors :
      keptSignatures Method.provides p.constructors = [] :=
    keptSignatures_provides_eq_nil
      overrides_of_mem_clientConstructors
  have hHelper :
      keptSignatures Method.provides
        p.strategy.helper.toList = [] :=
    keptSignatures_provides_eq_nil
      (overrides_of_mem_helper p.strategy)
  have hInit :
      keptSignatures Method.provides [p.initializer] = [] :=
    keptSignatures_provides_eq_nil
      (List.forall_mem_singleton.mpr
        (Strategy.initializer_plain hInitializer).1)
  have hWaiters :
      keptSignatures Method.provides
          (if p.strategy.service.hasWaiters then
            [lazyWaiters p.strategy.names.waiters]
            else []) =
        if p.strategy.service.hasWaiters then
          [accessorSignature waitersAccessor
            p.strategy.names.waiters]
        else [] := by
    cases p.strategy.service.hasWaiters <;> rfl
  have hClosing :
      keptSignatures Method.provides
        [closing clientHandlerField] = [] :=
    rfl
  have hAdditional :
      keptSignatures Method.provides
        p.strategy.additional = [] :=
    keptSignatures_provides_eq_nil
      (overrides_of_mem_additional p.strategy)
  unfold TypeDecl.provided SyncParts.declaration
    SyncParts.methods accessorSignatures
  simp only [keptSignatures_append]
  rw [hConstructors, hHelper, hInit, hWaiters, hClosing,
    hAdditional,
    keptSignatures_map fun types _ =>
      provides_implementedOperation p.strategy types,
    keptSignatures_map fun _ _ => rfl]
  simp only [List.nil_append, List.append_nil,
    List.append_assoc]
  rfl

/- The client of futures provides operations alone. -/
theorem provided_asyncClient
    (n : Names)
    (advanced : Option ClassName)
    (operations : List OperationTypes) :
    (asyncClient n advanced operations).provided =
      operations.map (·.signature .async) := by
  have hConstructors :
      keptSignatures Method.provides
        (clientConstructors Sdk.awsAsyncClientParams advanced
          (asyncInitialization n advanced)) = [] :=
    keptSignatures_provides_eq_nil
      overrides_of_mem_clientConstructors
  have hClosing :
      keptSignatures Method.provides
        [closing syncClientField] = [] :=
    rfl
  unfold TypeDecl.provided asyncClient
  simp only [keptSignatures_append]
  rw [hConstructors, hClosing,
    keptSignatures_map fun types _ =>
      provides_delegatedOperation types,
    List.nil_append, List.append_nil]
  rfl

------------------------------------------------------------
-- Agreement
------------------------------------------------------------

/- The methods before the operations take no request. -/
theorem takesRequest_of_mem_factories
    {n : Names}
    {flavour : Flavour}
    {builder client : Option String} :
    ∀ m ∈ [builderFactory n flavour builder,
        clientFactory n flavour client],
      m.signature.takesRequest = false := by
  intro m hMem
  apply takesRequest_of_parameters_nil
  simp only [List.mem_cons, List.not_mem_nil, or_false] at hMem
  rcases hMem with rfl | rfl <;> rfl

/- An interface has each operation once. -/
theorem having_syncInterface
    (s : Service)
    (n : Names)
    (operations : List OperationTypes)
    (presigners : Option ClassName) :
    (syncInterface s n operations presigners).having
        (operations.map (·.signature .sync)) =
      operations.map (·.signature .sync) := by
  refine having_eq (f := declaredOperation .sync)
    [builderFactory n .sync
        (some (builderFactoryJavadoc n.syncInterface.simple)),
      clientFactory n .sync
        (some (clientFactoryJavadoc n.syncInterface.simple))]
    ([metadataFactory s.metadata.endpointPrefix] ++
      (if s.hasWaiters then
        [accessor waitersAccessor n.waiters]
        else []) ++
      presigners.toList.map (accessor presignersAccessor))
    ?_ (fun types => takesRequest_operation types .sync)
    takesRequest_of_mem_factories ?_
  · simp only [syncInterface, List.append_assoc]
  · intro m hMem
    apply takesRequest_of_parameters_nil
    simp only [List.mem_append, List.mem_singleton,
      List.mem_map, List.mem_ite_nil_right] at hMem
    rcases hMem with (rfl | ⟨_, rfl⟩) | ⟨_, _, rfl⟩ <;> rfl

/- So has that of futures. -/
theorem having_asyncInterface
    (n : Names)
    (operations : List OperationTypes) :
    (asyncInterface n operations).having
        (operations.map (·.signature .async)) =
      operations.map (·.signature .async) := by
  refine having_eq (f := declaredOperation .async)
    [builderFactory n .async none,
      clientFactory n .async none] []
    ?_ (fun types => takesRequest_operation types .async)
    takesRequest_of_mem_factories ?_
  · rw [List.append_nil]
    rfl
  · exact fun _ hMem => absurd hMem List.not_mem_nil

/- A client has each operation once. -/
theorem having_declaration
    {p : SyncParts}
    (hInitializer :
      p.strategy.initializer = .ok p.initializer) :
    p.declaration.having
        (p.operations.map (·.signature .sync)) =
      p.operations.map (·.signature .sync) := by
  refine having_eq (f := implementedOperation p.strategy)
    p.constructors
    (p.strategy.helper.toList ++ [p.initializer] ++
      (if p.strategy.service.hasWaiters then
        [lazyWaiters p.strategy.names.waiters]
        else []) ++
      p.presigners.toList.map newPresigners ++
      [closing clientHandlerField] ++
      p.strategy.additional)
    ?_ (fun types => takesRequest_operation types .sync)
    takesRequest_of_mem_clientConstructors ?_
  · simp only [SyncParts.declaration, SyncParts.methods,
      List.append_assoc]
  · intro m hMem
    simp only [List.mem_append, List.mem_singleton,
      List.mem_map, List.mem_ite_nil_right] at hMem
    rcases hMem with
      ((((hHelper | rfl) | ⟨_, rfl⟩) | ⟨_, _, rfl⟩) | rfl) |
        hAdditional
    · exact takesRequest_of_mem_helper p.strategy m hHelper
    · exact takesRequest_of_parameters_nil
        (Strategy.initializer_plain hInitializer).2
    · exact takesRequest_of_parameters_nil rfl
    · exact takesRequest_of_parameters_nil rfl
    · exact takesRequest_of_parameters_nil rfl
    · exact takesRequest_of_mem_additional p.strategy m
        hAdditional

/- So has the client of futures. -/
theorem having_asyncClient
    (n : Names)
    (advanced : Option ClassName)
    (operations : List OperationTypes) :
    (asyncClient n advanced operations).having
        (operations.map (·.signature .async)) =
      operations.map (·.signature .async) := by
  refine having_eq (f := delegatedOperation)
    (clientConstructors Sdk.awsAsyncClientParams advanced
      (asyncInitialization n advanced))
    [closing syncClientField] rfl
    (fun types => takesRequest_operation types .async)
    takesRequest_of_mem_clientConstructors ?_
  intro m hMem
  apply takesRequest_of_parameters_nil
  rw [List.mem_singleton.mp hMem]
  rfl

/-
  With the parts of the client, interfaces and clients agree.
-/
theorem SyncParts.Checked.signaturesAgree
    {s : Service}
    {p : SyncParts}
    (hParts : Checked s p) :
    SignaturesAgree s p.strategy.names.waiters p.presigners
      (Role.declare p) := by
  have hService := hParts.service_eq
  have hSync := hParts.map_signature_eq
  have hAsync := map_signature_async p.operations
  have hOffered :
      (Role.syncInterface.declare p).offered =
        p.operations.map (·.signature .sync) ++
          accessorSignatures s p.strategy.names.waiters
            p.presigners := by
    rw [Role.declare, offered_syncInterface, hService]
  have hProvided :
      (Role.syncClient.declare p).provided =
        p.operations.map (·.signature .sync) ++
          accessorSignatures s p.strategy.names.waiters
            p.presigners := by
    rw [Role.declare, provided_declaration hParts.initializer,
      hService]
  exact {
    syncOffered := by rw [hOffered, hSync]
    syncProvided := by rw [hProvided, hOffered]
    asyncOffered := by
      rw [Role.declare, offered_asyncInterface, hAsync, hSync]
    asyncProvided := by
      rw [Role.declare, Role.declare, provided_asyncClient,
        offered_asyncInterface]
    syncOnce := by
      intro role hRole
      simp only [List.mem_cons, List.not_mem_nil, or_false]
        at hRole
      rw [← hSync]
      rcases hRole with rfl | rfl
      · exact having_syncInterface _ _ _ _
      · exact having_declaration hParts.initializer
    asyncOnce := by
      intro role hRole
      simp only [List.mem_cons, List.not_mem_nil, or_false]
        at hRole
      rw [← hSync, ← hAsync]
      rcases hRole with rfl | rfl
      · exact having_asyncInterface _ _
      · exact having_asyncClient _ _ _ }

/-
  Whenever clients are generated for a service, they are for
  every protocol, and interfaces and clients agree: what is
  offered is provided, in the order of the model, and every
  operation is there once, for callers that wait and for
  those that take a future.
-/
theorem generate_signaturesAgree
    {s : Service}
    {emitter : Emitter}
    {files : List GeneratedFile}
    (hFiles : generate s emitter = .ok files)
    (protocol : Protocol) :
    ∃ others declare n presigners,
      generate (s.withProtocol protocol) emitter =
          .ok others ∧
        Family (s.withProtocol protocol) emitter others
          declare ∧
        Names.ofService s = .ok n ∧
        n.presigners s = .ok presigners ∧
        SignaturesAgree s n.waiters presigners declare := by
  have hOthers :
      ∃ others,
        generate (s.withProtocol protocol) emitter =
          .ok others := by
    rcases agreeBeyond_withProtocol s protocol emitter with
      ⟨e, hFault, -⟩ | ⟨_, _, other, _, _, hOther, -⟩
    · rw [hFiles] at hFault
      cases hFault
    · exact ⟨_, hOther⟩
  rcases hOthers with ⟨others, hOther⟩
  rcases exists_parts_of_generate hOther with
    ⟨p, hParts, hFamily⟩
  have hAgree := hParts.signaturesAgree
  -- Names and operations are the same for all protocols.
  exact ⟨others, Role.declare p, p.strategy.names,
    p.presigners, hOther, hFamily, hParts.strategy_eq.1,
    hParts.presigners, hAgree.syncOffered,
    hAgree.syncProvided, hAgree.asyncOffered,
    hAgree.asyncProvided, hAgree.syncOnce,
    hAgree.asyncOnce⟩

/- The clients of the bookshop, for a protocol of dry runs. -/
theorem generate_signaturesAgree_bookshop :
    (operationSignatures bookshop).map Signature.name =
        ["order", "cancel"] ∧
      ∃ files others declare n presigners,
        generate bookshop Emitter.standard = .ok files ∧
          Family (bookshop.withProtocol .ec2)
            Emitter.standard others declare ∧
          Names.presigners n bookshop = .ok presigners ∧
          SignaturesAgree bookshop n.waiters presigners
            declare := by
  rcases exists_generate_bookshop Emitter.standard with
    ⟨files, hFiles⟩
  rcases generate_signaturesAgree hFiles .ec2 with
    ⟨others, declare, n, presigners, _, hFamily, _,
      hPresigners, hAgree⟩
  exact ⟨by decide, files, others, declare, n, presigners,
    hFiles, hFamily, hPresigners, hAgree⟩

end ClientGen.Client
