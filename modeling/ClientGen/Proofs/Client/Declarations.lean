import ClientGen.Client.Assembly.Generator
import ClientGen.Proofs.Client.Members

/-
  The types of the family are put together without an error
  of their own.

  Main declarations include:
    * `Assembly.syncInterface_eq`
    * `Assembly.asyncInterface_eq`
    * `Assembly.syncClient_eq`
    * `Assembly.asyncClient_eq`
    * `Assembly.baseBuilder_eq`
    * `Assembly.syncBuilder_eq`
    * `Assembly.asyncBuilder_eq`

  Each type is the plain one, once the names that it refers
  to have been checked.
-/

namespace ClientGen.Client.Assembly

open ClientGen.Java ClientGen.Model

------------------------------------------------------------
-- Methods of Interfaces
------------------------------------------------------------

/- What an interface declares of an operation. -/
theorem declaredOperation_eq
    (n : Names)
    (flavour : Flavour)
    (o : Operation) :
    declaredOperation n flavour o =
      (n.operation o).map (Client.declaredOperation flavour) := by
  have hBody :
      Code.ofSteps [.statement "throw new $T()"
          [Sdk.unsupportedOperationException]] =
        .ok (Code.ofParts (statement
          ["throw new ", Sdk.unsupportedOperationException,
            "()"])) := by
    apply Code.ofSteps_eq rfl
    simp [-String.reduceToList]
    repeat rw [String.toList_ofList]
    simp
  unfold declaredOperation Names.operation
  cases OperationNames.ofOperation o with
  | error e => rfl
  | ok names =>
      simp only [bind, Except.bind, Method.withSteps_ok hBody]
      rfl

/- The method that makes a builder. -/
theorem builderFactory_eq
    (n : Names)
    (flavour : Flavour)
    (javadoc : Option String) :
    builderFactory n flavour javadoc =
      .ok (Client.builderFactory n flavour javadoc) := by
  apply Method.withSteps_eq rfl
  simp [-String.reduceToList]
  repeat rw [String.toList_ofList]
  simp

/- The method that makes a client. -/
theorem clientFactory_eq
    (n : Names)
    (flavour : Flavour)
    (javadoc : Option String) :
    clientFactory n flavour javadoc =
      .ok (Client.clientFactory n flavour javadoc) := by
  apply Method.withSteps_eq rfl
  simp [-String.reduceToList]
  repeat rw [String.toList_ofList]
  simp

/- The method that tells where the service is. -/
theorem metadataFactory_eq
    (endpointPrefix : String) :
    metadataFactory endpointPrefix =
      .ok (Client.metadataFactory endpointPrefix) := by
  apply Method.withSteps_eq rfl
  simp [-String.reduceToList]
  repeat rw [String.toList_ofList]
  simp

/- A method without a body. -/
theorem accessor_eq
    (name : String)
    (returned : ClassName) :
    accessor name returned =
      .ok (Client.accessor name returned) :=
  rfl

------------------------------------------------------------
-- Interfaces
------------------------------------------------------------

/-
  The interface of synchronous clients needs the names of the
  operations and of the presigners.
-/
theorem syncInterface_eq
    (s : Service)
    (n : Names) :
    syncInterface s n = (do
      let operations ← n.operations s
      let presigners ← n.presigners s
      .ok (Client.syncInterface s n operations presigners)) := by
  have hOperations :=
    mapM_eq_map (declaredOperation_eq n .sync)
      s.operations.values
  unfold syncInterface Client.syncInterface Names.operations
  simp only [builderFactory_eq, clientFactory_eq, hOperations,
    metadataFactory_eq, accessor_eq]
  cases s.operations.values.mapM n.operation with
  | error e => rfl
  | ok operations =>
      cases s.hasWaiters <;>
        rcases n.presigners s with e | ⟨_ | presigners⟩ <;> rfl

/- That of asynchronous ones needs those of the operations. -/
theorem asyncInterface_eq
    (s : Service)
    (n : Names) :
    asyncInterface s n =
      (n.operations s).map (Client.asyncInterface n) := by
  have hOperations :=
    mapM_eq_map (declaredOperation_eq n .async)
      s.operations.values
  unfold asyncInterface Names.operations
  simp only [builderFactory_eq, clientFactory_eq, hOperations]
  cases s.operations.values.mapM n.operation <;> rfl

------------------------------------------------------------
-- Members of Clients
------------------------------------------------------------

/- The constructor that leaves the configuration out. -/
theorem delegatingConstructor_eq
    (params : Parameter) :
    delegatingConstructor params =
      .ok (protectedConstructor [params] (statement
        ["this(" ++ clientParamsName ++ ", null)"])) := by
  apply Method.withSteps_eq rfl
  simp [-String.reduceToList]
  repeat rw [String.toList_ofList]
  simp

/- The method that closes a client. -/
theorem closing_eq
    (name : String) :
    closing name = .ok (Client.closing name) := by
  apply Method.withSteps_eq rfl
  simp [-String.reduceToList]
  repeat rw [String.toList_ofList]
  simp

/- The steps that set all fields build what is described. -/
theorem initialization_ok
    (p : SyncParts) :
    Code.ofSteps
        (initialization p.strategy.service p.strategy
          p.advanced.isSome) =
      .ok (Code.ofParts p.initialization) := by
  cases hAdvanced : p.advanced with
  | none =>
      apply Code.ofSteps_eq rfl
      simp [initialization, SyncParts.initialization,
        SyncParts.handlerSettings, assign, hAdvanced,
        -String.reduceToList]
      repeat rw [String.toList_ofList]
      simp
  | some advanced =>
      apply Code.ofSteps_eq rfl
      simp [initialization, SyncParts.initialization,
        SyncParts.handlerSettings, assign, hAdvanced,
        -String.reduceToList]
      repeat rw [String.toList_ofList]
      simp

/- The constructors of a client. -/
theorem syncConstructors_eq
    (p : SyncParts) :
    syncConstructors p.strategy.service p.strategy p.advanced =
      .ok p.constructors := by
  have hBody := initialization_ok p
  unfold syncConstructors SyncParts.constructors
    clientConstructors
  cases hAdvanced : p.advanced with
  | none =>
      rw [hAdvanced, Option.isSome_none] at hBody
      simp only [Method.withSteps_ok hBody]
      rfl
  | some advanced =>
      rw [hAdvanced, Option.isSome_some] at hBody
      simp only [Method.withSteps_ok hBody,
        delegatingConstructor_eq]
      rfl

/- An operation as the client carries it out. -/
theorem implementedOperation_eq
    (t : Client.Strategy)
    (o : Operation) :
    implementedOperation t.names t o =
      (t.names.operation o).map
        (Client.implementedOperation t) := by
  have hBody :
      ∀ types : OperationTypes,
        Code.ofSteps
            [.code (Code.ofParts (t.responseHandler types)),
              .add "\n" [],
              .code (Code.ofParts t.errorHandler),
              .add "\n" [],
              .code (Code.ofParts (t.executionCall types))] =
          .ok (Code.ofParts
            (t.responseHandler types ++ [.text "\n"] ++
              t.errorHandler ++ [.text "\n"] ++
              t.executionCall types)) := by
    intro types
    apply Code.ofSteps_eq rfl
    simp [-String.reduceToList]
    repeat rw [String.toList_ofList]
    simp
  unfold implementedOperation
  rw [Strategy.responseHandler_eq, Strategy.errorHandler_eq,
    Strategy.executionCall_eq]
  cases t.names.operation o with
  | error e => rfl
  | ok types =>
      simp only [bind, Except.bind, Except.map]
      exact congrArg (Except.mapError GenerationError.code)
        (Method.withSteps_ok (hBody types))

/- The method that makes the waiters once. -/
theorem lazyWaiters_eq
    (waiters : ClassName) :
    lazyWaiters waiters = .ok (Client.lazyWaiters waiters) := by
  apply Method.withSteps_eq rfl
  simp [-String.reduceToList]
  repeat rw [String.toList_ofList]
  simp

/- The method that makes new presigners. -/
theorem newPresigners_eq
    (presigners : ClassName) :
    newPresigners presigners =
      .ok (Client.newPresigners presigners) := by
  apply Method.withSteps_eq rfl
  simp [-String.reduceToList]
  repeat rw [String.toList_ofList]
  simp

------------------------------------------------------------
-- The Synchronous Client
------------------------------------------------------------

/-
  The client needs the names of the operations, and then
  those of the exceptions.
-/
theorem syncClient_eq
    (t : Client.Strategy)
    (advanced presigners : Option ClassName) :
    syncClient t.service t.names t advanced presigners = (do
      let operations ← t.names.operations t.service
      let initializer ← t.initializer
      .ok (SyncParts.declaration ⟨t, advanced, presigners,
        operations, initializer⟩)) := by
  have hOperations :=
    mapM_eq_map (implementedOperation_eq t)
      t.service.operations.values
  -- The constructors are the same for all operations.
  have hConstructors :=
    syncConstructors_eq
      ⟨t, advanced, presigners, [], { kind := .constructor }⟩
  have hPresigners :
      (presigners.mapM newPresigners : Except CodeError _) =
        .ok (presigners.map Client.newPresigners) :=
    optionMapM_eq_map newPresigners_eq presigners
  unfold syncClient Names.operations
  simp only [hOperations, hConstructors, hPresigners,
    Strategy.helper_eq, Strategy.initializer_eq,
    lazyWaiters_eq, closing_eq, Strategy.additional_eq]
  rcases t.service.operations.values.mapM
      t.names.operation with e | operations
  · rfl
  · rcases t.initializer with e | initializer
    · rfl
    · simp only [SyncParts.declaration, SyncParts.methods]
      cases t.service.hasWaiters <;>
        cases presigners <;> rfl

------------------------------------------------------------
-- The Asynchronous Client
------------------------------------------------------------

/- An operation as it is handed to the executor. -/
theorem delegatedOperation_eq
    (n : Names)
    (o : Operation) :
    delegatedOperation n o =
      (n.operation o).map Client.delegatedOperation := by
  have hBody :
      ∀ types : OperationTypes,
        Code.ofSteps
            [.statement
              "return $T.supplyAsync(() -> $N.$N($N), $N)"
              [Sdk.completableFuture, syncClientField,
                types.method.text, types.input.text,
                executorField]] =
          .ok (Client.delegatedOperation types).body := by
    intro types
    apply Code.ofSteps_eq rfl
    simp [-String.reduceToList]
    repeat rw [String.toList_ofList]
    simp
  unfold delegatedOperation
  cases n.operation o with
  | error e => rfl
  | ok types =>
      exact congrArg (Except.mapError GenerationError.code)
        (Method.withSteps_ok (hBody types))

/- The constructors, with a configuration or without. -/
theorem asyncConstructors_eq
    (n : Names)
    (advanced : Option ClassName) :
    asyncConstructors n advanced =
      .ok (clientConstructors Sdk.awsAsyncClientParams advanced
        (asyncInitialization n advanced)) := by
  unfold asyncConstructors clientConstructors
  cases advanced with
  | none =>
      have hBody :
          Code.ofSteps
              [.statement "this.$N = new $T($N)"
                [syncClientField, n.syncClient,
                  clientParamsName],
                .statement "this.$N = $N.getExecutor()"
                  [executorField, clientParamsName]] =
            .ok (Code.ofParts (asyncInitialization n none)) := by
        apply Code.ofSteps_eq rfl
        simp [asyncInitialization, assign,
          -String.reduceToList]
        repeat rw [String.toList_ofList]
        simp
      simp only [Method.withSteps_ok hBody]
      rfl
  | some advanced =>
      have hBody :
          Code.ofSteps
              [.statement "this.$N = new $T($N, $N)"
                [syncClientField, n.syncClient,
                  clientParamsName,
                  advancedConfigurationName],
                .statement "this.$N = $N.getExecutor()"
                  [executorField, clientParamsName]] =
            .ok (Code.ofParts
              (asyncInitialization n (some advanced))) := by
        apply Code.ofSteps_eq rfl
        simp [asyncInitialization, assign,
          -String.reduceToList]
        repeat rw [String.toList_ofList]
        simp
      simp only [Method.withSteps_ok hBody,
        delegatingConstructor_eq]
      rfl

/- The client needs the names of the operations. -/
theorem asyncClient_eq
    (s : Service)
    (n : Names)
    (advanced : Option ClassName) :
    asyncClient s n advanced =
      (n.operations s).map (Client.asyncClient n advanced) := by
  have hOperations :=
    mapM_eq_map (delegatedOperation_eq n)
      s.operations.values
  unfold asyncClient Names.operations
  simp only [asyncConstructors_eq, hOperations, closing_eq]
  cases s.operations.values.mapM n.operation <;> rfl

------------------------------------------------------------
-- Defaults
------------------------------------------------------------

/- The provider of signers is made as described. -/
theorem signer_eq
    (m : Metadata) :
    signer m = .ok (Code.ofParts (Client.signer m)) := by
  unfold signer Client.signer
  cases m.signatureVersion with
  | v4 =>
      apply Code.ofSteps_eq rfl
      simp [-String.reduceToList]
      repeat rw [String.toList_ofList]
      simp
  | v2 =>
      apply Code.ofSteps_eq rfl
      simp [-String.reduceToList]
      repeat rw [String.toList_ofList]
      simp

/- So is the method that sees to it. -/
theorem securityDefaults_eq
    (m : Metadata) :
    securityDefaults m =
      .ok (Code.ofParts (Client.securityDefaults m)) := by
  unfold securityDefaults
  rw [bind_eq_ok_iff]
  refine ⟨_, signer_eq m, ?_⟩
  apply Code.ofSteps_eq rfl
  simp [Client.securityDefaults, overridingMark,
    -String.reduceToList]
  repeat rw [String.toList_ofList]
  simp

/- So is the one that adds handlers. -/
theorem listenerDefaults_eq
    (n : Names) :
    listenerDefaults n =
      .ok (Code.ofParts (Client.listenerDefaults n)) := by
  unfold listenerDefaults
  apply Code.ofSteps_eq rfl
  simp [Client.listenerDefaults, overridingMark, chainedHandlers,
    -String.reduceToList]
  repeat rw [String.toList_ofList]
  simp

------------------------------------------------------------
-- The Base Builder
------------------------------------------------------------

/- The method that tells where the service is. -/
theorem endpointPrefix_eq
    (m : Metadata) :
    endpointPrefix m = .ok (Client.endpointPrefix m) := by
  apply Method.withSteps_eq rfl
  simp [-String.reduceToList]
  repeat rw [String.toList_ofList]
  simp

/- The method that makes the defaults of a service. -/
theorem serviceDefaults_eq
    (m : Metadata)
    (n : Names) :
    serviceDefaults m n = .ok (Client.serviceDefaults m n) := by
  unfold serviceDefaults
  rw [securityDefaults_eq, listenerDefaults_eq]
  simp only [bind, Except.bind]
  apply Method.withSteps_eq rfl
  simp [-String.reduceToList]
  repeat rw [String.toList_ofList]
  simp

/- The method that gives the options of connections. -/
theorem httpConfig_eq
    (expression : String) :
    httpConfig expression =
      .ok (Client.httpConfig expression) := by
  apply Method.withSteps_eq rfl
  simp [-String.reduceToList]
  repeat rw [String.toList_ofList]
  simp

/- The methods that set and get the configuration. -/
theorem configurationMethods_eq
    (advanced : ClassName) :
    configurationMethods advanced =
      .ok (Client.configurationMethods advanced) := by
  have hSetter :
      Code.ofSteps
          [.statement "this.$N = $N"
              [advancedConfigurationName,
                advancedConfigurationName],
            .statement "return thisBuilder()" []] =
        .ok (Code.ofParts (
          statement ["this." ++ advancedConfigurationName ++
            " = " ++ advancedConfigurationName] ++
          statement ["return thisBuilder()"])) := by
    apply Code.ofSteps_eq rfl
    simp [-String.reduceToList]
    repeat rw [String.toList_ofList]
    simp
  have hGetter :
      Code.ofSteps
          [.statement "return $N"
            [advancedConfigurationName]] =
        .ok (Code.ofParts (statement
          ["return " ++ advancedConfigurationName])) := by
    apply Code.ofSteps_eq rfl
    simp [-String.reduceToList]
    repeat rw [String.toList_ofList]
    simp
  unfold configurationMethods
  simp only [Method.withSteps_ok hSetter,
    Method.withSteps_ok hGetter]
  rfl

/- The builder needs no names but those it is given. -/
theorem baseBuilder_eq
    (s : Service)
    (n : Names)
    (advanced : Option ClassName) :
    baseBuilder s n advanced =
      .ok (Client.baseBuilder s n advanced) := by
  have hHttp :
      (s.customization.httpConfig.mapM httpConfig :
          Except CodeError _) =
        .ok (s.customization.httpConfig.map
          Client.httpConfig) :=
    optionMapM_eq_map httpConfig_eq _
  unfold baseBuilder Client.baseBuilder
  simp only [endpointPrefix_eq, serviceDefaults_eq, hHttp,
    configurationMethods_eq]
  cases advanced <;>
    cases s.customization.httpConfig <;> rfl

------------------------------------------------------------
-- Builders
------------------------------------------------------------

/- The interface of builders. -/
theorem builderInterface_eq
    (n : Names)
    (flavour : Flavour)
    (advanced : Option ClassName) :
    builderInterface n flavour advanced =
      .ok (Client.builderInterface n flavour advanced) := by
  cases advanced <;> rfl

/- The method that makes a client with a configuration. -/
theorem buildConfiguredClient_eq
    (n : Names)
    (advanced : ClassName) :
    buildConfiguredClient n advanced =
      .ok (Client.buildConfiguredClient n advanced) := by
  apply Method.withSteps_eq rfl
  simp [-String.reduceToList]
  repeat rw [String.toList_ofList]
  simp

/- The method that makes the synchronous client. -/
theorem buildSyncClient_eq
    (n : Names)
    (advanced : Option ClassName) :
    buildSyncClient n advanced =
      .ok (Client.buildSyncClient n advanced) := by
  cases advanced with
  | none =>
      apply Method.withSteps_eq rfl
      simp [-String.reduceToList]
      repeat rw [String.toList_ofList]
      simp
  | some advanced =>
      apply Method.withSteps_eq rfl
      simp [-String.reduceToList]
      repeat rw [String.toList_ofList]
      simp

/- The builder of synchronous clients. -/
theorem syncBuilder_eq
    (n : Names)
    (advanced : Option ClassName) :
    syncBuilder n advanced =
      .ok (Client.syncBuilder n advanced) := by
  unfold syncBuilder Client.syncBuilder
  rw [buildSyncClient_eq]
  cases advanced with
  | none => rfl
  | some advanced =>
      simp only [Option.mapM_some, buildConfiguredClient_eq]
      rfl

/- The method that makes the asynchronous client. -/
theorem buildAsyncClient_eq
    (n : Names)
    (advanced : Option ClassName) :
    buildAsyncClient n advanced.isSome =
      .ok (Client.buildAsyncClient n advanced) := by
  cases advanced with
  | none =>
      apply Method.withSteps_eq rfl
      simp [-String.reduceToList]
      repeat rw [String.toList_ofList]
      simp
  | some advanced =>
      apply Method.withSteps_eq rfl
      simp [-String.reduceToList]
      repeat rw [String.toList_ofList]
      simp

/- The builder of asynchronous clients. -/
theorem asyncBuilder_eq
    (n : Names)
    (advanced : Option ClassName) :
    asyncBuilder n advanced.isSome =
      .ok (Client.asyncBuilder n advanced) := by
  unfold asyncBuilder
  rw [buildAsyncClient_eq]
  rfl

end ClientGen.Client.Assembly
