import ClientGen.Proofs.Client.Declared
import ClientGen.Proofs.Client.FilePaths
import ClientGen.Proofs.Java.Lexical

/-
  Names that are legal: fixed ones, and those made of names
  of a model that have been checked.

  Main declarations include:
    * `Sdk.isLegal_kitClass`
    * `Names.isLegal_classBelow`
    * `Names.isLegal_clientClass`
    * `isLegal_of_resolveClass`
    * `OperationTypes.IsLegal`
    * `ExceptionTypes.IsLegal`

  Names that were checked carry the proof of it, and what is
  added to them keeps them names.
-/

namespace ClientGen.Client

open ClientGen.Java ClientGen.Java.Code ClientGen.Model
open ClientGen.Text

------------------------------------------------------------
-- Classes of the Kit
------------------------------------------------------------

namespace Sdk

/- The packages of the kit, below the one they lie in. -/
def subpackages :
    List String :=
  ["annotation", "auth", "auth.presign", "runtime.auth",
   "client", "opensdk.protect.client", "client.builder",
   "config", "config.defaults", "handlers", "regions", "http",
   "protocol.json", "runtime.transform"]

/- All of them have qualified names. -/
theorem isQualifiedName_path :
    ∀ path ∈ "" :: subpackages.map ("." ++ ·),
      isQualifiedName (root ++ path) = true := by
  have hRoot : isQualifiedName root = true := by
    decide
  have hBelow :
      ∀ package ∈ subpackages,
        isQualifiedName package = true := by
    decide
  rw [List.forall_mem_cons]
  refine ⟨hRoot, ?_⟩
  intro path hPath
  rcases List.mem_map.mp hPath with ⟨package, hMem, rfl⟩
  rw [← String.append_assoc]
  exact isQualifiedName_append hRoot (hBelow package hMem)

/- So a class of the kit needs no more than a name. -/
theorem isLegal_kitClass
    {path simple : String}
    (hPath : path ∈ "" :: subpackages.map ("." ++ ·))
    (hSimple : isTypeName simple = true) :
    (kitClass path simple).IsLegal :=
  .of_isTypeName
    (isQualifiedName_path path hPath) hSimple

/- Errors, requests and responses. -/
@[simp]
theorem isLegal_messages :
    amazonClientException.IsLegal ∧
      amazonServiceException.IsLegal ∧
      amazonWebServiceRequest.IsLegal ∧
      amazonWebServiceResponse.IsLegal ∧ request.IsLegal ∧
      sdkBaseException.IsLegal ∧
      sdkInternalApi.IsLegal := by
  and_intros <;>
    exact isLegal_kitClass (by decide)
      (by decide)

/- Signing. -/
@[simp]
theorem isLegal_signing :
    aws4Signer.IsLegal ∧ queryStringSigner.IsLegal ∧
      staticSignerProvider.IsLegal ∧
      presignerParams.IsLegal ∧ signerProvider.IsLegal := by
  and_intros <;>
    exact isLegal_kitClass (by decide)
      (by decide)

/- Clients. -/
@[simp]
theorem isLegal_clients :
    awsAsyncClientParams.IsLegal ∧
      awsSyncClientParams.IsLegal ∧
      clientExecutionParams.IsLegal ∧
      clientHandler.IsLegal ∧ clientHandlerParams.IsLegal ∧
      sdkClientHandler.IsLegal ∧
      apiGatewayClientHandler.IsLegal ∧
      clientBuilder.IsLegal ∧
      defaultClientBuilder.IsLegal := by
  and_intros <;>
    exact isLegal_kitClass (by decide)
      (by decide)

/- Configuration. -/
@[simp]
theorem isLegal_configuration :
    clientListenerConfiguration.IsLegal ∧
      clientSecurityConfiguration.IsLegal ∧
      immutableClientConfiguration.IsLegal ∧
      immutableSyncClientConfiguration.IsLegal ∧
      clientConfigurationDefaults.IsLegal ∧
      handlerChainFactory.IsLegal ∧
      serviceMetadata.IsLegal := by
  and_intros <;>
    exact isLegal_kitClass (by decide)
      (by decide)

/- Protocols. -/
@[simp]
theorem isLegal_protocols :
    defaultErrorResponseHandler.IsLegal ∧
      httpResponseHandler.IsLegal ∧
      sdkHttpConfigurationOptions.IsLegal ∧
      staxResponseHandler.IsLegal ∧
      jsonClientMetadata.IsLegal ∧
      jsonErrorResponseMetadata.IsLegal ∧
      jsonErrorShapeMetadata.IsLegal ∧
      jsonOperationMetadata.IsLegal ∧
      sdkJsonProtocolFactory.IsLegal ∧
      standardErrorUnmarshaller.IsLegal ∧
      unmarshaller.IsLegal ∧
      voidStaxUnmarshaller.IsLegal := by
  and_intros <;>
    exact isLegal_kitClass (by decide)
      (by decide)

/- The platform, and the language itself. -/
@[simp]
theorem isLegal_platform :
    arrayList.IsLegal ∧ arrays.IsLegal ∧ list.IsLegal ∧
      completableFuture.IsLegal ∧ executorService.IsLegal ∧
      node.IsLegal := by
  have hUtil : isQualifiedName "java.util" = true := by
    decide
  have hConcurrent :
      isQualifiedName "java.util.concurrent" = true := by
    decide
  have hDom : isQualifiedName "org.w3c.dom" = true := by
    decide
  refine ⟨.of_isTypeName hUtil ?_,
    .of_isTypeName hUtil ?_,
    .of_isTypeName hUtil ?_,
    .of_isTypeName hConcurrent ?_,
    .of_isTypeName hConcurrent ?_,
    .of_isTypeName hDom ?_⟩ <;>
  decide

@[simp]
theorem isLegal_language :
    unsupportedOperationException.IsLegal ∧
      autoCloseable.IsLegal ∧ exception.IsLegal ∧
      (ClassName.javaLang "Override").IsLegal ∧
      (ClassName.javaLang "Deprecated").IsLegal ∧
      (ClassName.javaLang "String").IsLegal ∧
      (ClassName.javaLang "Void").IsLegal := by
  have hLang : isQualifiedName "java.lang" = true := by
    decide
  and_intros <;>
    exact .of_isTypeName hLang
      (by decide)

end Sdk

------------------------------------------------------------
-- Fixed Names
------------------------------------------------------------

/- The classes that configurations are built with. -/
@[simp]
theorem isIdentifier_nestedBuilder :
    isIdentifier "Builder" = true := by
  decide

/- The methods that clients and builders have. -/
@[simp]
theorem isIdentifier_methodNames :
    isIdentifier "builder" = true ∧
      isIdentifier "create" = true ∧
      isIdentifier "serviceMetadata" = true ∧
      isIdentifier "close" = true ∧
      isIdentifier "dryRun" = true ∧
      isIdentifier initMethod = true ∧
      isIdentifier createErrorHandlerMethod = true ∧
      isIdentifier "serviceEndpointPrefix" = true ∧
      isIdentifier "serviceDefaults" = true ∧
      isIdentifier "serviceSpecificHttpConfig" = true ∧
      isIdentifier "buildServiceClient" = true ∧
      isIdentifier "buildClient" = true ∧
      isIdentifier "buildAsyncClient" = true := by
  and_intros <;> decide

/- Their fields, parameters and type variables. -/
@[simp]
theorem isIdentifier_variableNames :
    isIdentifier waitersAccessor = true ∧
      isIdentifier presignersAccessor = true ∧
      isIdentifier clientHandlerField = true ∧
      isIdentifier protocolFactoryField = true ∧
      isIdentifier exceptionUnmarshallersField = true ∧
      isIdentifier clientParamsName = true ∧
      isIdentifier advancedConfigurationName = true ∧
      isIdentifier syncClientField = true ∧
      isIdentifier executorField = true ∧
      isIdentifier "errorShapeMetadata" = true ∧
      isIdentifier "clientConfiguration" = true ∧
      isIdentifier "request" = true ∧
      isIdentifier "B" = true ∧ isIdentifier "C" = true ∧
      isIdentifier "X" = true := by
  and_intros <;> decide

------------------------------------------------------------
-- Names of a Service
------------------------------------------------------------

namespace Names

variable (n : Names)

/- A package below that of the clients. -/
theorem isLegal_classBelow
    {subpackage simple : String}
    (hSubpackage : isQualifiedName subpackage = true)
    (hSimple : isIdentifier simple = true) :
    (n.classBelow subpackage simple).IsLegal :=
  ClassName.isLegal_inPackage
    (isQualifiedName_append n.package.valid hSubpackage)
    hSimple

/- A model class needs no more than a name. -/
theorem isLegal_modelClass
    {simple : String}
    (hSimple : isIdentifier simple = true) :
    (n.modelClass simple).IsLegal :=
  n.isLegal_classBelow (by decide) hSimple

/- Neither do marshallers and unmarshallers. -/
theorem isLegal_transformClass
    {simple : String}
    (hSimple : isIdentifier simple = true) :
    (n.transformClass simple).IsLegal :=
  n.isLegal_classBelow (by decide) hSimple

/- The classes that every service has. -/
@[simp]
theorem isLegal_waiters :
    n.waiters.IsLegal :=
  n.isLegal_classBelow (by decide)
    (isIdentifier_suffix n.service.valid (by decide)
      (by decide))

@[simp]
theorem isLegal_baseException :
    n.baseException.IsLegal :=
  n.isLegal_modelClass n.baseExceptionName.valid

/- Classes beside the clients are named after the service. -/
theorem isLegal_clientClass
    {before after : String}
    (hBefore :
      before = "" ∨
        hasIdentifierForm before.toList = true)
    (hAfter : after.toList.all isIdentifierPart = true)
    (hCapital : hasCapital after = true) :
    (n.clientClass before after).IsLegal :=
  ClassName.isLegal_inPackage n.package.valid
    (isIdentifier_affixed hBefore n.service.valid hAfter
      hCapital)

@[simp]
theorem isLegal_protocolFactory :
    n.protocolFactory.IsLegal :=
  n.isLegal_clientClass (.inl rfl) (by decide)
    (by decide)

/- So are the types of the family. -/
theorem isLegal_className
    (role : Role) :
    (role.className n).IsLegal := by
  have hClass :
      role.className n =
        n.clientClass role.affixes.1 role.affixes.2 := by
    cases role <;> rfl
  rw [hClass]
  apply n.isLegal_clientClass <;>
    cases role <;> decide

/- Their simple names are identifiers. -/
theorem isIdentifier_simpleName
    (role : Role) :
    isIdentifier (role.simpleName n) = true := by
  have hLegal := n.isLegal_className role
  rw [Role.className_eq] at hLegal
  exact hLegal.names _ List.mem_cons_self

@[simp]
theorem isLegal_family :
    n.syncInterface.IsLegal ∧ n.syncClient.IsLegal ∧
      n.asyncInterface.IsLegal ∧ n.asyncClient.IsLegal ∧
      n.baseBuilder.IsLegal ∧
      n.syncBuilderInterface.IsLegal ∧
      n.syncBuilder.IsLegal ∧
      n.asyncBuilderInterface.IsLegal ∧
      n.asyncBuilder.IsLegal :=
  ⟨n.isLegal_className .syncInterface,
    n.isLegal_className .syncClient,
    n.isLegal_className .asyncInterface,
    n.isLegal_className .asyncClient,
    n.isLegal_className .baseBuilder,
    n.isLegal_className .syncBuilderInterface,
    n.isLegal_className .syncBuilder,
    n.isLegal_className .asyncBuilderInterface,
    n.isLegal_className .asyncBuilder⟩

@[simp]
theorem isLegal_flavours
    (flavour : Flavour) :
    (n.interface flavour).IsLegal ∧
      (n.client flavour).IsLegal ∧
      (n.builderInterface flavour).IsLegal ∧
      (n.builder flavour).IsLegal := by
  cases flavour <;>
    simp [interface, client, builderInterface, builder]

end Names

------------------------------------------------------------
-- Configured Classes
------------------------------------------------------------

/- A class that is configured has been looked at. -/
theorem isLegal_of_resolveClass
    {name defaultPackage what : String}
    {c : ClassName}
    (hDefault : isQualifiedName defaultPackage = true)
    (hClass : resolveClass name defaultPackage what = .ok c) :
    c.IsLegal := by
  unfold resolveClass at hClass
  by_cases hName : isQualifiedName (trimmed name) = true
  · simp only [hName, if_true] at hClass
    rcases Except.ok.inj hClass with rfl
    by_cases hDot : '.' ∈ (trimmed name).toList
    · rw [if_pos (List.contains_iff_mem.mpr hDot)]
      exact ClassName.isLegal_ofQualified hName hDot
    · rw [if_neg (by rwa [List.contains_iff_mem])]
      apply ClassName.isLegal_inPackage hDefault
      rwa [← isQualifiedName_of_undotted hDot]
  · simp only [hName, Bool.false_eq_true, if_false] at hClass
    cases hClass

/- So has one that may or may not be configured. -/
theorem isLegal_of_mapM_resolveClass
    {name : Option String}
    {defaultPackage what : String}
    {found : Option ClassName}
    (hDefault : isQualifiedName defaultPackage = true)
    (hFound :
      (name.mapM fun name =>
        resolveClass name defaultPackage what) = .ok found) :
    ∀ c ∈ found, c.IsLegal := by
  cases name with
  | none =>
      cases hFound
      simp
  | some name =>
      rw [Option.mapM_some] at hFound
      rcases map_eq_ok_iff.mp hFound with ⟨c, hClass, rfl⟩
      simpa using isLegal_of_resolveClass hDefault hClass

------------------------------------------------------------
-- Operations and Exceptions
------------------------------------------------------------

/- The classes of an operation can be named. -/
structure OperationTypes.IsLegal
    (types : OperationTypes) :
    Prop where
  request : types.request.IsLegal
  response : types.response.IsLegal
  marshaller : types.marshaller.IsLegal
  unmarshaller : types.unmarshaller.IsLegal

/- So can those of an exception. -/
structure ExceptionTypes.IsLegal
    (e : ExceptionTypes) :
    Prop where
  exception : e.exception.IsLegal
  unmarshaller : e.unmarshaller.IsLegal

/- An unmarshaller is named after what it unmarshals. -/
theorem isIdentifier_unmarshallerName
    {name : String}
    (hName : isIdentifier name = true) :
    isIdentifier (unmarshallerName name) = true :=
  isIdentifier_suffix hName (by decide)
    (by decide)

/- All of them come from checked names. -/
theorem OperationTypes.Matches.isLegal
    {n : Names}
    {o : Operation}
    {types : OperationTypes}
    (hTypes : types.Matches n o) :
    types.IsLegal where
  request := by
    rw [hTypes.request]
    exact n.isLegal_modelClass hTypes.requestType
  response := by
    rw [hTypes.response]
    exact n.isLegal_modelClass hTypes.returnType
  marshaller := by
    rw [hTypes.marshaller]
    exact n.isLegal_transformClass
      (isIdentifier_suffix hTypes.inputShape
        (by decide) (by decide))
  unmarshaller := by
    rw [hTypes.unmarshaller]
    exact n.isLegal_transformClass
      (isIdentifier_unmarshallerName hTypes.returnType)

theorem ExceptionTypes.Matches.isLegal
    {n : Names}
    {source : Shape}
    {e : ExceptionTypes}
    (hTypes : e.Matches n source) :
    e.IsLegal where
  exception := by
    rw [hTypes.exception]
    exact n.isLegal_modelClass hTypes.name
  unmarshaller := by
    rw [hTypes.unmarshaller]
    exact n.isLegal_transformClass
      (isIdentifier_unmarshallerName hTypes.name)

/- Whatever was checked in a list is legal throughout. -/
theorem Names.isLegal_of_operations
    {n : Names}
    {s : Service}
    {operations : List OperationTypes}
    (hOperations : n.operations s = .ok operations) :
    ∀ types ∈ operations, types.IsLegal := by
  intro types hMem
  rcases exists_of_mem_mapM hOperations hMem with
    ⟨o, _, hTypes⟩
  exact (matches_of_operation hTypes).isLegal

theorem Names.isLegal_of_exceptions
    {n : Names}
    {s : Service}
    {exceptions : List ExceptionTypes}
    (hExceptions : n.exceptions s = .ok exceptions) :
    ∀ e ∈ exceptions, e.IsLegal := by
  intro e hMem
  rcases exists_of_mem_mapM hExceptions hMem with
    ⟨x, _, hTypes⟩
  exact (matches_of_exception hTypes).isLegal

end ClientGen.Client
