import ClientGen.Proofs.Client.Constructors

/-
  The configuration class of a service, and how clients and
  builders pass it on.

  Main declarations include:
    * `ConfiguredBuilders`
    * `Threaded`
    * `MakesOne`
    * `SyncParts.Checked.threaded`
    * `generate_threaded`

  Each type is told by itself whether there is such a class.
  Where there is one, every type of the family has a place
  for it, and where there is none no type has.
-/

namespace ClientGen.Client

open ClientGen.Java ClientGen.Model ClientGen.Text Code

------------------------------------------------------------
-- Configured Families
------------------------------------------------------------

/-
  Builders keep a configuration if there is a class of them:
  the base in a field with access to it, the interfaces in a
  method that gives back the builder.
-/
structure ConfiguredBuilders
    (n : Names)
    (advanced : Option ClassName)
    (declare : Role → TypeDecl) :
    Prop where
  field :
    List.Forall₂
      (fun a f =>
        f.type = .class a ∧ f.modifiers = [.privateAccess])
      advanced.toList
      ((declare .baseBuilder).fieldsNamed
        advancedConfigurationName)
  setter :
    List.Forall₂
      (fun a m =>
        m.modifiers = [.publicAccess] ∧
          m.parameters.map (·.type) = [.class a])
      advanced.toList
      (((declare .baseBuilder).methodsNamed
        advancedConfigurationName).filter
          (!·.parameters.isEmpty))
  getter :
    List.Forall₂
      (fun a m =>
        m.modifiers = [.protectedAccess, .final] ∧
          m.returns = .class a)
      advanced.toList
      (((declare .baseBuilder).methodsNamed
        advancedConfigurationName).filter
          (·.parameters.isEmpty))
  offered :
    ∀ role ∈ [Role.syncBuilderInterface,
        .asyncBuilderInterface],
      List.Forall₂
        (fun a m =>
          m.parameters.map (·.type) = [.class a] ∧
            m.returns = .class (role.className n))
        advanced.toList
        ((declare role).methodsNamed
          advancedConfigurationName)
  passed :
    List.Forall₂
      (fun a m =>
        m.parameters.getLast?.map (·.type) = some (.class a))
      advanced.toList
      ((declare .syncBuilder).methodsNamed
        "buildServiceClient")

/-
  The configuration is passed on by all types of a family or
  by none.  Wherever a client is made it is by a constructor
  that the client has, with a configuration if there is one.
-/
structure Threaded
    (n : Names)
    (advanced : Option ClassName)
    (declare : Role → TypeDecl) :
    Prop where
  accepted :
    ∀ maker ∈ [Role.asyncClient, .syncBuilder,
        .asyncBuilder],
      ∀ client ∈ [Role.syncClient, .asyncClient],
        ∀ call ∈ (declare maker).constructorCalls
            (client.className n),
          (declare client).Accepts call
  made :
    ∀ pair ∈ [(Role.asyncClient, Role.syncClient),
        (.syncBuilder, .syncClient),
        (.asyncBuilder, .asyncClient)],
      ((declare pair.1).constructorCalls
          (pair.2.className n)).map (·.map List.length) =
        [some (1 + advanced.toList.length)]
  kept :
    List.Forall₂
      (fun a f =>
        f.type = .class a ∧
          f.modifiers = [.privateAccess, .final])
      advanced.toList
      ((declare .syncClient).fieldsNamed
        advancedConfigurationName)
  syncClient :
    ConfiguredClient Sdk.awsSyncClientParams advanced
      (declare .syncClient)
  asyncClient :
    ConfiguredClient Sdk.awsAsyncClientParams advanced
      (declare .asyncClient)
  builders : ConfiguredBuilders n advanced declare

------------------------------------------------------------
-- Calls of Constructors
------------------------------------------------------------

/- The arguments that are passed, one by one. -/
def passedArguments
    (takesAdvanced : Bool) :
    List (List Token) :=
  [.word clientParamsName] ::
    if takesAdvanced then [[.word advancedConfigurationName]]
    else []

/- Where fields are set one client is made. -/
theorem constructorCalls_asyncInitialization
    (n : Names)
    (advanced : Option ClassName)
    (c : ClassName) :
    constructorCalls c
        (ofParts (asyncInitialization n advanced)).tokens =
      if n.syncClient = c then
        [some (passedArguments advanced.isSome)]
      else [] := by
  let before : List Token :=
    [.word "this", .symbol '.', .word syncClientField,
      .symbol '=']
  let after (takesAdvanced : Bool) : List Token :=
    .symbol '(' :: passedTokens takesAdvanced ++
      [.symbol ')', .symbol ';'] ++
      (assignmentTokens executorField executorTokens ++
        [.symbol ';'])
  have hTokens :
      (ofParts (asyncInitialization n advanced)).tokens =
        before ++ .word "new" :: .type (.class n.syncClient) ::
          after advanced.isSome := by
    rw [(reads_asyncInitialization n advanced).tokens_eq]
    cases advanced <;> rfl
  have hAfter :
      ∀ takesAdvanced,
        Token.word "new" ∉ before ++ after takesAdvanced ∧
          arguments? (after takesAdvanced) =
            some (passedArguments takesAdvanced) := by
    decide
  rcases hAfter advanced.isSome with ⟨hNone, hArguments⟩
  rw [hTokens, constructorCalls_new hNone, hArguments]

/- Nothing else is made where a client hands on. -/
theorem flatMap_constructorCalls_clientConstructors
    (c params : ClassName)
    (advanced : Option ClassName)
    (body : List Part) :
    (clientConstructors params advanced body).flatMap
        (fun m => constructorCalls c m.body.tokens) =
      constructorCalls c (ofParts body).tokens := by
  have hDelegating :
      constructorCalls c
        (ofParts (statement ["this(" ++ clientParamsName ++
          ", null)"])).tokens = [] :=
    constructorCalls_eq_nil (by simp [statement])
  cases advanced with
  | none => exact List.append_nil _
  | some a =>
      refine (congrArg (· ++ _) hDelegating).trans ?_
      exact List.append_nil _

/- The client of futures makes the client that it keeps. -/
theorem constructorCalls_asyncClient
    {n : Names}
    {c : ClassName}
    (hClass : c ≠ Sdk.completableFuture)
    (advanced : Option ClassName)
    (operations : List OperationTypes) :
    (asyncClient n advanced operations).constructorCalls c =
      if n.syncClient = c then
        [some (passedArguments advanced.isSome)]
      else [] := by
  have hOperations :
      (operations.map delegatedOperation).flatMap
        (fun m => constructorCalls c m.body.tokens) = [] := by
    rw [List.flatMap_map, List.flatMap_eq_nil_iff]
    intro types _
    apply constructorCalls_eq_nil
    simp [statement, hClass]
  have hClosing :
      [closing syncClientField].flatMap
        (fun m => constructorCalls c m.body.tokens) = [] := by
    rw [List.flatMap_singleton]
    exact constructorCalls_eq_nil (by simp [statement])
  have hFragments :
      (asyncClient n advanced operations).fragments =
        (asyncClient n advanced operations).methods.map
          (·.body) :=
    rfl
  unfold TypeDecl.constructorCalls
  rw [hFragments, List.flatMap_map, asyncClient,
    List.flatMap_append, List.flatMap_append, hOperations,
    hClosing, flatMap_constructorCalls_clientConstructors,
    constructorCalls_asyncInitialization, List.append_nil,
    List.append_nil]

/-
  A type makes one client, with parameters and with the
  configuration if there is one.  What futures are made of
  is beside the point.
-/
def MakesOne
    (d : TypeDecl)
    (made : ClassName)
    (advanced : Option ClassName) :
    Prop :=
  ∃ arguments : List (List Token),
    arguments.length = 1 + advanced.toList.length ∧
      ∀ c, c ≠ Sdk.completableFuture →
        d.constructorCalls c =
          if made = c then [some arguments] else []

/- The client of futures makes the one that it keeps. -/
theorem makesOne_asyncClient
    (n : Names)
    (advanced : Option ClassName)
    (operations : List OperationTypes) :
    MakesOne (asyncClient n advanced operations) n.syncClient
      advanced := by
  refine ⟨passedArguments advanced.isSome, ?_, ?_⟩
  · cases advanced <;> rfl
  · intro c hClass
    exact constructorCalls_asyncClient hClass advanced
      operations

/- The word in front of what a method makes and gives back. -/
theorem reads_returnNew :
    Reads [.text "return new "]
      ([.word "return"] ++ [.word "new"]) :=
  rfl

/- A builder makes the client that it gives back. -/
theorem constructorCalls_returnNew
    {text : String}
    {ts : List Token}
    (hText : Reads [.text text, .text ";\n"] ts)
    (hNone : .word "new" ∉ ts)
    (c made : ClassName) :
    constructorCalls c
        (ofParts (statement
          ["return new ", made, text])).tokens =
      if made = c then [arguments? ts] else [] := by
  have hReads :=
    reads_returnNew.cons ((reads_type (.class made)).cons hText)
  have hAll : Token.word "new" ∉ [.word "return"] ++ ts := by
    simpa using hNone
  have hTokens := hReads.tokens_eq
  exact (congrArg (constructorCalls c) hTokens).trans
    (constructorCalls_new hAll c made)

/- The parameters that a builder has by itself. -/
def ownParams
    (configuration params : String) :
    List Token :=
  [.word "super", .symbol '.', .word configuration,
    .symbol '(', .symbol ')', .symbol '.', .word params,
    .symbol '(', .symbol ')']

/- The builder of clients for futures makes one of them. -/
theorem makesOne_asyncBuilder
    (n : Names)
    (advanced : Option ClassName) :
    MakesOne (asyncBuilder n advanced) n.asyncClient
      advanced := by
  let params : List Token :=
    ownParams "asyncClientConfiguration"
      "asLegacyAsyncClientParams"
  let configuration : List Token :=
    [.word advancedConfigurationName, .symbol '(', .symbol ')']
  let passed (takesAdvanced : Bool) : List Token :=
    .symbol '(' :: params ++
      (if takesAdvanced then .symbol ',' :: configuration
        else []) ++
      [.symbol ')', .symbol ';']
  let arguments (takesAdvanced : Bool) : List (List Token) :=
    params :: if takesAdvanced then [configuration] else []
  have hReads :
      ∀ takesAdvanced : Bool,
        Reads
          [.text ("(super.asyncClientConfiguration()" ++
            ".asLegacyAsyncClientParams()" ++
            (if takesAdvanced then
              ", " ++ advancedConfigurationName ++ "()"
              else "") ++ ")"),
            .text ";\n"]
          (passed takesAdvanced) := by
    unfold Reads
    decide +kernel
  have hPassed :
      ∀ takesAdvanced,
        Token.word "new" ∉ passed takesAdvanced ∧
          arguments? (passed takesAdvanced) =
            some (arguments takesAdvanced) := by
    decide
  rcases hPassed advanced.isSome with ⟨hNone, hArguments⟩
  refine ⟨arguments advanced.isSome, ?_, ?_⟩
  · cases advanced <;> rfl
  · intro c _
    have hCalls :=
      constructorCalls_returnNew (hReads advanced.isSome) hNone
        c n.asyncClient
    rw [hArguments] at hCalls
    exact (List.append_nil _).trans hCalls

/- What is passed a configuration makes a client with it. -/
theorem exists_constructorCalls_buildConfiguredClient
    (n : Names)
    (advanced : ClassName) :
    ∃ arguments : List (List Token),
      arguments.length = 2 ∧
        ∀ c,
          constructorCalls c
              (buildConfiguredClient n advanced).body.tokens =
            if n.syncClient = c then [some arguments]
            else [] := by
  let cast : List Token :=
    [.type (.class Sdk.immutableSyncClientConfiguration),
      .word "syncClientConfiguration", .symbol '=',
      .symbol '(',
      .type (.class Sdk.immutableSyncClientConfiguration),
      .symbol ')', .word "clientConfiguration", .symbol ';',
      .word "return"]
  let params : List Token :=
    [.word "syncClientConfiguration", .symbol '.',
      .word "asLegacySyncClientParams", .symbol '(',
      .symbol ')']
  let passed : List Token :=
    .symbol '(' :: params ++
      [.symbol ',', .word advancedConfigurationName,
        .symbol ')', .symbol ';']
  have hCast :
      Reads
        (statement
            [Sdk.immutableSyncClientConfiguration,
              " syncClientConfiguration = (",
              Sdk.immutableSyncClientConfiguration,
              ") clientConfiguration"] ++
          [.text "return new "])
        (cast ++ [.word "new"]) := by
    unfold Reads
    decide +kernel
  have hPassed :
      Reads
        [.text ("(syncClientConfiguration" ++
            ".asLegacySyncClientParams(), " ++
            advancedConfigurationName ++ ")"),
          .text ";\n"]
        passed := by
    unfold Reads
    decide +kernel
  have hNone : Token.word "new" ∉ cast ++ passed := by
    decide
  have hReads :=
    hCast.append
      ((reads_type (.class n.syncClient)).cons hPassed)
  have hTokens := hReads.tokens_eq
  rw [List.append_assoc] at hTokens
  refine ⟨[params, [.word advancedConfigurationName]], rfl,
    fun c => ?_⟩
  exact (congrArg (constructorCalls c) hTokens).trans
    (constructorCalls_new hNone c n.syncClient)

/-
  The builder of clients makes one, too: with parameters
  alone, or with what it is passed by itself.
-/
theorem makesOne_syncBuilder
    (n : Names)
    (advanced : Option ClassName) :
    MakesOne (syncBuilder n advanced) n.syncClient
      advanced := by
  cases advanced with
  | none =>
      let params : List Token :=
        ownParams "syncClientConfiguration"
          "asLegacySyncClientParams"
      have hReads :
          Reads
            [.text ("(super.syncClientConfiguration()" ++
                ".asLegacySyncClientParams())"),
              .text ";\n"]
            (.symbol '(' :: params ++
              [.symbol ')', .symbol ';']) := by
        unfold Reads
        decide +kernel
      refine ⟨[params], rfl, fun c _ => ?_⟩
      exact (List.append_nil _).trans
        (constructorCalls_returnNew hReads (by decide) c
          n.syncClient)
  | some a =>
      have hPassing :
          ∀ c,
            constructorCalls c
              (buildSyncClient n (some a)).body.tokens = [] :=
        fun c => constructorCalls_eq_nil (by simp [statement])
      rcases exists_constructorCalls_buildConfiguredClient n a
        with ⟨arguments, hLength, hCalls⟩
      have hFragments :
          (syncBuilder n (some a)).fragments =
            [(buildSyncClient n (some a)).body,
              (buildConfiguredClient n a).body] :=
        rfl
      refine ⟨arguments, hLength, fun c _ => ?_⟩
      unfold TypeDecl.constructorCalls
      rw [hFragments, List.flatMap_cons, hPassing,
        List.flatMap_singleton, hCalls, List.nil_append]

------------------------------------------------------------
-- Builders
------------------------------------------------------------

/- The base of builders has methods for a configuration. -/
theorem methodsNamed_baseBuilder
    (s : Service)
    (n : Names)
    (advanced : Option ClassName) :
    (baseBuilder s n advanced).methodsNamed
        advancedConfigurationName =
      advanced.elim [] configurationMethods := by
  unfold TypeDecl.methodsNamed baseBuilder
  cases s.customization.httpConfig <;> cases advanced <;> rfl

/- All builders have a place for it. -/
theorem SyncParts.configuredBuilders
    (p : SyncParts) :
    ConfiguredBuilders p.strategy.names p.advanced
      (Role.declare p) := by
  constructor
  case field =>
    unfold Role.declare TypeDecl.fieldsNamed baseBuilder
    cases p.advanced with
    | none => exact .nil
    | some a => exact .cons ⟨rfl, rfl⟩ .nil
  case setter =>
    unfold Role.declare
    simp only
    rw [methodsNamed_baseBuilder]
    cases p.advanced with
    | none => exact .nil
    | some a => exact .cons ⟨rfl, rfl⟩ .nil
  case getter =>
    unfold Role.declare
    simp only
    rw [methodsNamed_baseBuilder]
    cases p.advanced with
    | none => exact .nil
    | some a => exact .cons ⟨rfl, rfl⟩ .nil
  case offered =>
    intro role hRole
    simp only [List.mem_cons, List.not_mem_nil, or_false]
      at hRole
    unfold Role.declare TypeDecl.methodsNamed builderInterface
    rcases hRole with rfl | rfl <;>
      cases p.advanced with
      | none => exact .nil
      | some a => exact .cons ⟨rfl, rfl⟩ .nil
  case passed =>
    unfold Role.declare TypeDecl.methodsNamed syncBuilder
    cases p.advanced with
    | none => exact .nil
    | some a => exact .cons rfl .nil

------------------------------------------------------------
-- Families
------------------------------------------------------------

/- The clients of a service are no part of the platform. -/
theorem client_ne_completableFuture
    (n : Names)
    {role : Role}
    (hRole : role ∈ [Role.syncClient, .asyncClient]) :
    role.className n ≠ Sdk.completableFuture := by
  intro hSame
  have hFirst :=
    congrArg (fun c => c.topLevel.toList.head?) hSame
  simp only [List.mem_cons, List.not_mem_nil, or_false]
    at hRole
  rcases hRole with rfl | rfl <;>
    simp [Role.className, Names.syncClient, Names.asyncClient,
      Names.clientClass, ClassName.inPackage,
      Sdk.completableFuture] at hFirst

/- The configuration is passed on by all types or none. -/
theorem SyncParts.Checked.threaded
    {s : Service}
    {p : SyncParts}
    (hParts : Checked s p) :
    Threaded p.strategy.names p.advanced (Role.declare p) := by
  let n := p.strategy.names
  have hSync := configuredClient hParts.initializer
  have hAsync :=
    configuredClient_asyncClient n p.advanced p.operations
  have hAsyncClient :=
    makesOne_asyncClient n p.advanced p.operations
  have hSyncBuilder := makesOne_syncBuilder n p.advanced
  have hAsyncBuilder := makesOne_asyncBuilder n p.advanced
  have hMakers :
      ∀ maker ∈ [Role.asyncClient, .syncBuilder, .asyncBuilder],
        ∃ made, MakesOne (Role.declare p maker) made
          p.advanced := by
    simp only [List.forall_mem_cons]
    exact ⟨⟨_, hAsyncClient⟩, ⟨_, hSyncBuilder⟩,
      ⟨_, hAsyncBuilder⟩, by simp⟩
  constructor
  case accepted =>
    intro maker hMaker client hClient call hCall
    rcases hMakers maker hMaker with
      ⟨made, arguments, hLength, hCalls⟩
    rw [hCalls _ (client_ne_completableFuture n hClient)]
      at hCall
    split_ifs at hCall
    · rw [List.mem_singleton] at hCall
      subst hCall
      simp only [List.mem_cons, List.not_mem_nil, or_false]
        at hClient
      rcases hClient with rfl | rfl
      · exact hSync.accepts hLength
      · exact hAsync.accepts hLength
    · cases hCall
  case made =>
    have hMade :
        ∀ {maker client : Role},
          client ∈ [Role.syncClient, .asyncClient] →
            MakesOne (Role.declare p maker)
              (client.className n) p.advanced →
            ((Role.declare p maker).constructorCalls
                (client.className n)).map
                  (·.map List.length) =
              [some (1 + p.advanced.toList.length)] := by
      rintro maker client hClient ⟨arguments, hLength, hCalls⟩
      rw [hCalls _ (client_ne_completableFuture n hClient),
        if_pos rfl]
      simp [hLength]
    simp only [List.forall_mem_cons]
    exact ⟨hMade (by simp) hAsyncClient,
      hMade (by simp) hSyncBuilder,
      hMade (by simp) hAsyncBuilder, by simp⟩
  case kept =>
    have hKept := p.fieldsNamed_advanced
    unfold Role.declare
    simp only
    rw [hKept, List.forall₂_map_right_iff]
    exact List.forall₂_same.mpr fun a _ => ⟨rfl, rfl⟩
  case syncClient => exact hSync
  case asyncClient => exact hAsync
  case builders => exact p.configuredBuilders

/- There is a class if the model declares one. -/
theorem Names.isSome_advancedConfiguration
    {n : Names}
    {s : Service}
    {advanced : Option ClassName}
    (hAdvanced : n.advancedConfiguration s = .ok advanced) :
    advanced.isSome =
      s.customization.clientConfigClass.isSome := by
  unfold advancedConfiguration at hAdvanced
  cases hName : s.customization.clientConfigClass with
  | none =>
      rw [hName] at hAdvanced
      cases hAdvanced
      rfl
  | some name =>
      rw [hName, Option.mapM_some] at hAdvanced
      rcases map_eq_ok_iff.mp hAdvanced with ⟨a, _, rfl⟩
      rfl

/-
  Whenever files are generated, the configuration that the
  model declares is passed on by all types of the family, and
  by none if the model declares none.
-/
theorem generate_threaded
    {s : Service}
    {emitter : Emitter}
    {files : List GeneratedFile}
    (hFiles : generate s emitter = .ok files) :
    ∃ n advanced declare,
      Family s emitter files declare ∧
        Names.ofService s = .ok n ∧
        n.advancedConfiguration s = .ok advanced ∧
        advanced.isSome =
          s.customization.clientConfigClass.isSome ∧
        Threaded n advanced declare := by
  rcases exists_parts_of_generate hFiles with
    ⟨p, hParts, hFamily⟩
  exact ⟨p.strategy.names, p.advanced, Role.declare p,
    hFamily, hParts.strategy_eq.1, hParts.advanced,
    Names.isSome_advancedConfiguration hParts.advanced,
    hParts.threaded⟩

/-
  The bookshop declares a configuration, so that its clients
  are made with two arguments.
-/
theorem generate_threaded_bookshop :
    ∃ files n declare,
      generate bookshop Emitter.standard = .ok files ∧
        Family bookshop Emitter.standard files declare ∧
        Names.ofService bookshop = .ok n ∧
        Threaded n
          (some (ClassName.inPackage "com.example"
            "BookConfiguration")) declare := by
  rcases exists_generate_bookshop Emitter.standard with
    ⟨files, hFiles⟩
  rcases generate_threaded hFiles with
    ⟨n, advanced, declare, hFamily, hNames, hAdvanced, -,
      hThreaded⟩
  have hName :
      isQualifiedName
          (trimmed "com.example.BookConfiguration") = true ∧
        (trimmed
          "com.example.BookConfiguration").toList.contains
            '.' = true ∧
        ClassName.ofQualified
            (trimmed "com.example.BookConfiguration") =
          ClassName.inPackage "com.example"
            "BookConfiguration" := by
    decide
  have hClass :
      n.advancedConfiguration bookshop =
        .ok (some (ClassName.inPackage "com.example"
          "BookConfiguration")) := by
    unfold Names.advancedConfiguration resolveClass
    simp only [bookshop, Option.mapM_some, hName, if_true]
    rfl
  rw [hClass] at hAdvanced
  cases hAdvanced
  exact ⟨files, n, declare, hFiles, hFamily, hNames,
    hThreaded⟩

end ClientGen.Client
