import ClientGen.Proofs.Client.Declared
import ClientGen.Proofs.Code.Constructors

/-
  How clients are made, with the configuration of a service
  or without.

  Main declarations include:
    * `ConfiguredClient`
    * `configuredClient_of_constructors`
    * `SyncParts.configuredClient`
    * `reads_asyncInitialization`
    * `configuredClient_asyncClient`

  Both clients have the same constructors, but set fields of
  their own.  Which those are is read from the statements of
  the constructor, and told from those that are declared.
-/

namespace ClientGen.Client

open ClientGen.Java ClientGen.Model Code

------------------------------------------------------------
-- Constructors of Clients
------------------------------------------------------------

/-
  A client is made with parameters, and if there is a class
  of configurations also with both.  Without a configuration
  the constructor hands on to the other one, with nothing in
  its place.  All others set every final field.
-/
structure ConfiguredClient
    (params : ClassName)
    (advanced : Option ClassName)
    (d : TypeDecl) :
    Prop where
  takes :
    d.constructors.map (·.parameters.map (·.type)) =
      [.class params] :: advanced.toList.map fun a =>
        [.class params, .class a]
  delegates :
    ∀ m ∈ d.constructors, ∀ other ∈ d.constructors,
      m.parameters.length = 1 →
        other.parameters.length = 2 →
        ∃ p, m.parameters = [p] ∧
          m.body.delegation? =
            some [[.word p.name], [.word "null"]]
  delegates_only :
    ∀ m ∈ d.constructors, m.body.delegation?.isSome →
      m.parameters.length = 1 ∧
        ∃ other ∈ d.constructors,
          other.parameters.length = 2
  sets :
    ∀ m ∈ d.constructors, m.body.delegation? = none →
      m.body.SetsFinalFields d.fields

/- A configured client takes what makers pass. -/
theorem ConfiguredClient.accepts
    {params : ClassName}
    {advanced : Option ClassName}
    {d : TypeDecl}
    (hClient : ConfiguredClient params advanced d)
    {arguments : List (List Token)}
    (hLength :
      arguments.length = 1 + advanced.toList.length) :
    d.Accepts (some arguments) := by
  have hTakes :
      d.constructors.map (·.parameters.length) =
        1 :: advanced.toList.map fun _ => 2 := by
    have hLengths :=
      congrArg (List.map List.length) hClient.takes
    simpa [Function.comp_def] using hLengths
  have hMem :
      arguments.length ∈
        d.constructors.map (·.parameters.length) := by
    rw [hTakes, hLength]
    cases advanced <;> simp
  rcases List.mem_map.mp hMem with ⟨m, hM, hParameters⟩
  exact ⟨arguments, rfl, m, hM, hParameters⟩

/- The constructor without a configuration hands on. -/
theorem delegation?_delegating :
    (ofParts (statement ["this(" ++ clientParamsName ++
        ", null)"])).delegation? =
      some [[.word clientParamsName], [.word "null"]] := by
  decide +kernel

/-
  A client with such constructors is configured, if what they
  are given to do sets all fields.
-/
theorem configuredClient_of_constructors
    {params : ClassName}
    {advanced : Option ClassName}
    {body : List Part}
    {d : TypeDecl}
    (hConstructors :
      d.constructors = clientConstructors params advanced body)
    (hKeeps : (ofParts body).delegation? = none)
    (hSets : (ofParts body).SetsFinalFields d.fields) :
    ConfiguredClient params advanced d := by
  have hDelegating := delegation?_delegating
  unfold clientConstructors at hConstructors
  cases advanced with
  | none =>
      simp only at hConstructors
      constructor
      case takes =>
        rw [hConstructors]
        rfl
      case delegates =>
        simp [hConstructors, protectedConstructor]
      case delegates_only =>
        simp [hConstructors, protectedConstructor, hKeeps]
      case sets =>
        simp [hConstructors, protectedConstructor, hSets]
  | some a =>
      simp only at hConstructors
      constructor
      case takes =>
        rw [hConstructors]
        rfl
      case delegates =>
        simp [hConstructors, protectedConstructor,
          hDelegating, Parameter.plain]
      case delegates_only =>
        simp [hConstructors, protectedConstructor, hKeeps]
      case sets =>
        simp [hConstructors, protectedConstructor,
          hDelegating, hSets]

------------------------------------------------------------
-- Initialization
------------------------------------------------------------

/- What the handler of requests is told is an expression. -/
theorem SyncParts.exists_reads_handlerSettings
    (p : SyncParts) :
    ∃ ts,
      Reads p.handlerSettings (ts ++ [.symbol ';']) ∧
        Token.symbol '=' ∉ ts ∧ Token.symbol ';' ∉ ts := by
  let advanced : List Token :=
    [.symbol '.', .word "withServiceAdvancedConfiguration",
      .symbol '(', .word advancedConfigurationName,
      .symbol ')']
  let sums (flag : Bool) : List Token :=
    [.symbol '.',
      .word "withCalculateCrc32FromCompressedDataEnabled",
      .symbol '(', .word (boolText flag), .symbol ')',
      .symbol ')']
  have hAdvanced :
      Reads
        [.text (".withServiceAdvancedConfiguration(" ++
          advancedConfigurationName ++ ")\n")]
        advanced := by
    unfold Reads
    decide +kernel
  have hSums :
      ∀ flag,
        Reads
          [.text
            (".withCalculateCrc32FromCompressedDataEnabled(" ++
              boolText flag ++ "));\n")]
          (sums flag ++ [.symbol ';']) := by
    unfold Reads
    decide +kernel
  let flag :=
    p.strategy.service.customization.calculateCrc32FromCompressedData
  unfold handlerSettings
  cases p.advanced with
  | none =>
      refine ⟨sums flag, hSums flag, ?_, ?_⟩ <;> simp [sums]
  | some a =>
      refine ⟨advanced ++ sums flag, ?_, ?_, ?_⟩
      · rw [List.append_assoc]
        exact hAdvanced.append (hSums flag)
      · simp [advanced, sums]
      · simp [advanced, sums]

/- The handler of requests is set to a new one. -/
theorem SyncParts.assigns_handler
    (p : SyncParts) :
    Assigns
      (continued
        ["this." ++ clientHandlerField ++ " = new ",
          p.strategy.handlerClass, "(new ",
          Sdk.clientHandlerParams,
          "().withClientParams(" ++ clientParamsName ++
            ")\n"]
        p.handlerSettings)
      [clientHandlerField] := by
  have hField :
      Reads [.text ("this." ++ clientHandlerField ++ " = new ")]
        (assignmentTokens clientHandlerField
          [.word "new"]) := by
    unfold Reads
    decide +kernel
  have hNew :
      Reads [.text "(new "] [.symbol '(', .word "new"] :=
    rfl
  have hParams :
      Reads
        [.text ("().withClientParams(" ++ clientParamsName ++
          ")\n")]
        [.symbol '(', .symbol ')', .symbol '.',
          .word "withClientParams", .symbol '(',
          .word clientParamsName, .symbol ')'] := by
    unfold Reads
    decide +kernel
  rcases p.exists_reads_handlerSettings with
    ⟨settings, hSettings, hSingle, hUnbroken⟩
  let value : List Token :=
    [.word "new", .type (.class p.strategy.handlerClass),
      .symbol '(', .word "new",
      .type (.class Sdk.clientHandlerParams), .symbol '(',
      .symbol ')', .symbol '.', .word "withClientParams",
      .symbol '(', .word clientParamsName, .symbol ')'] ++
    settings
  have hReads :=
    (hField.cons
      ((reads_type (.class p.strategy.handlerClass)).cons
        (hNew.cons
          ((reads_type (.class Sdk.clientHandlerParams)).cons
            hParams)))).continued hSettings
  rw [← List.append_assoc] at hReads
  have hValue :
      IsAssignment clientHandlerField
        (assignmentTokens clientHandlerField value) :=
    isAssignment_assignmentTokens (by simp [value, hSingle])
      (by simp [value, hUnbroken])
  exact assigns_single hReads hValue

/- Parameters and the configuration are set as given. -/
theorem assigns_parameter
    {name : String}
    (hName :
      name ∈ [clientParamsName, advancedConfigurationName]) :
    Assigns (assign name [name]) [name] := by
  have hReads :
      ∀ name ∈ [clientParamsName, advancedConfigurationName],
        Reads (assign name [name])
            (assignmentTokens name [.word name] ++
              [.symbol ';']) := by
    unfold Reads
    decide +kernel
  exact assigns_single (hReads name hName)
    (isAssignment_assignmentTokens (by simp) (by simp))

/- The field of a strategy is one of two. -/
theorem Strategy.field_name
    (t : Strategy) :
    t.field.name ∈
      [protocolFactoryField, exceptionUnmarshallersField] := by
  unfold field
  cases t.factory? with
  | some factory => exact List.mem_cons_self
  | none => exact List.mem_cons_of_mem _ List.mem_cons_self

/- It is set to what a method makes. -/
theorem Strategy.assigns_field
    (t : Strategy) :
    Assigns (assign t.field.name [initMethod ++ "()"])
      [t.field.name] := by
  have hReads :
      ∀ name ∈ [protocolFactoryField,
          exceptionUnmarshallersField],
        Reads (assign name [initMethod ++ "()"])
          (assignmentTokens name
            [.word initMethod, .symbol '(', .symbol ')'] ++
              [.symbol ';']) := by
    unfold Reads
    decide +kernel
  exact assigns_single (hReads _ t.field_name)
    (isAssignment_assignmentTokens (by simp) (by simp))

/- All fields of the client are set, one after the other. -/
theorem SyncParts.assigns_initialization
    (p : SyncParts) :
    Assigns p.initialization
      ([clientHandlerField] ++ [clientParamsName] ++
        (p.advanced.toList.map fun _ =>
          advancedConfigurationName) ++
        [p.strategy.field.name]) := by
  have hParams :
      Assigns (assign clientParamsName [clientParamsName])
        [clientParamsName] :=
    assigns_parameter (by simp)
  have hAdvanced :
      Assigns
        (if p.advanced.isSome then
          assign advancedConfigurationName
            [advancedConfigurationName]
          else [])
        (p.advanced.toList.map fun _ =>
          advancedConfigurationName) := by
    cases p.advanced with
    | none => exact assigns_nil
    | some a => exact assigns_parameter (by simp)
  exact ((p.assigns_handler.append hParams).append
    hAdvanced).append p.strategy.assigns_field

/- No two of them have the same name. -/
theorem SyncParts.nodup_assigned
    (p : SyncParts) :
    ([clientHandlerField] ++ [clientParamsName] ++
      (p.advanced.toList.map fun _ =>
        advancedConfigurationName) ++
      [p.strategy.field.name]).Nodup := by
  have hEach :
      ∀ name ∈ [protocolFactoryField,
          exceptionUnmarshallersField],
        ([clientHandlerField, clientParamsName,
          advancedConfigurationName, name].Nodup ∧
        [clientHandlerField, clientParamsName, name].Nodup) := by
    decide
  have hField := hEach _ p.strategy.field_name
  cases p.advanced with
  | none => exact hField.2
  | some a => exact hField.1

/- Every final field is one of them. -/
theorem SyncParts.name_mem_assigned
    {p : SyncParts}
    {f : Field}
    (hField : f ∈ p.fields)
    (hFinal : .final ∈ f.modifiers) :
    f.name ∈
      [clientHandlerField] ++ [clientParamsName] ++
        (p.advanced.toList.map fun _ =>
          advancedConfigurationName) ++
        [p.strategy.field.name] := by
  unfold fields syncFields at hField
  rw [List.mem_append, List.mem_append] at hField
  rcases hField with (hPlain | hAdvanced) | hWaiters
  · simp only [List.mem_cons, List.not_mem_nil, or_false]
      at hPlain
    rcases hPlain with rfl | rfl | rfl <;>
      simp [privateField, Field.plain]
  · rcases List.mem_map.mp hAdvanced with ⟨a, hA, rfl⟩
    have hSome : p.advanced = some a := by
      simpa using hA
    simp [privateField, Field.plain, hSome]
  · -- Waiters are made when they are first asked for.
    exfalso
    split_ifs at hWaiters
    · have hVolatile :
          .final ∉
            Modifier.canonical [.privateAccess, .volatile] := by
        decide
      rw [List.mem_singleton] at hWaiters
      subst hWaiters
      exact hVolatile hFinal
    · cases hWaiters

/- So each final field is set once. -/
theorem SyncParts.setsFinalFields
    (p : SyncParts) :
    (ofParts p.initialization).SetsFinalFields p.fields :=
  p.assigns_initialization.setsFinalFields p.nodup_assigned
    fun _ hField hFinal => name_mem_assigned hField hFinal

/- Methods that are no constructors are left out. -/
theorem filter_isConstructor_eq_nil
    {methods : List Method}
    (hMethods : ∀ m ∈ methods, m.isConstructor = false) :
    methods.filter Method.isConstructor = [] := by
  rw [List.filter_eq_nil_iff]
  intro m hM
  rw [hMethods m hM]
  exact Bool.false_ne_true

/- The constructors of a client are all kept. -/
theorem filter_isConstructor_clientConstructors
    (params : ClassName)
    (advanced : Option ClassName)
    (body : List Part) :
    (clientConstructors params advanced body).filter
        Method.isConstructor =
      clientConstructors params advanced body := by
  cases advanced <;> rfl

/- The other methods of the client are no constructors. -/
theorem SyncParts.constructors_declaration
    {p : SyncParts}
    (hInitializer :
      p.strategy.initializer = .ok p.initializer) :
    p.declaration.constructors = p.constructors := by
  let others : List Method :=
    p.operations.map (implementedOperation p.strategy) ++
      p.strategy.helper.toList ++ [p.initializer] ++
      (if p.strategy.service.hasWaiters then
        [lazyWaiters p.strategy.names.waiters]
        else []) ++
      p.presigners.toList.map newPresigners ++
      [closing clientHandlerField] ++
      p.strategy.additional
  have hOthers : ∀ m ∈ others, m.isConstructor = false := by
    simp only [others, List.forall_mem_append]
    refine ⟨⟨⟨⟨⟨⟨?_, ?_⟩, ?_⟩, ?_⟩, ?_⟩, ?_⟩, ?_⟩
    · rw [List.forall_mem_map]
      exact fun types _ => rfl
    · intro m hM
      rw [Option.mem_toList, Strategy.helper] at hM
      rcases Option.map_eq_some_iff.mp hM with ⟨f, _, rfl⟩
      rfl
    · rw [List.forall_mem_singleton]
      rcases Strategy.initializer_cases hInitializer with
        ⟨_, _, _, _, hMethod⟩ | ⟨_, _, _, hMethod⟩ <;>
        rw [hMethod] <;> rfl
    · cases p.strategy.service.hasWaiters
      · nofun
      · exact List.forall_mem_singleton.mpr rfl
    · rw [List.forall_mem_map]
      exact fun presigners _ => rfl
    · exact List.forall_mem_singleton.mpr rfl
    · unfold Strategy.additional
      cases p.strategy.kind with
      | ec2 => exact List.forall_mem_singleton.mpr rfl
      | _ => nofun
  have hMethods :
      p.declaration.methods = p.constructors ++ others := by
    simp [declaration, methods, others]
  unfold TypeDecl.constructors
  rw [hMethods, List.filter_append,
    filter_isConstructor_eq_nil hOthers, List.append_nil]
  exact filter_isConstructor_clientConstructors _ _ _

------------------------------------------------------------
-- Configured Clients
------------------------------------------------------------

/- The client is configured. -/
theorem SyncParts.configuredClient
    {p : SyncParts}
    (hInitializer :
      p.strategy.initializer = .ok p.initializer) :
    ConfiguredClient Sdk.awsSyncClientParams p.advanced
      p.declaration :=
  configuredClient_of_constructors
    (constructors_declaration hInitializer)
    p.assigns_initialization.delegation?_eq_none
    p.setsFinalFields

/- Its field for a configuration is private and final. -/
theorem SyncParts.fieldsNamed_advanced
    (p : SyncParts) :
    p.declaration.fieldsNamed advancedConfigurationName =
      p.advanced.toList.map fun a =>
        privateField (.class a) advancedConfigurationName := by
  have hOther :
      ∀ name ∈ [protocolFactoryField,
          exceptionUnmarshallersField],
        name ≠ advancedConfigurationName := by
    decide
  have hField := hOther _ p.strategy.field_name
  have hFixed :
      clientHandlerField ≠ advancedConfigurationName ∧
        clientParamsName ≠ advancedConfigurationName ∧
        waitersAccessor ≠ advancedConfigurationName := by
    decide
  have hDeclared : p.declaration.fields = p.fields :=
    rfl
  unfold TypeDecl.fieldsNamed
  rw [hDeclared, fields, syncFields, List.filter_append,
    List.filter_append]
  cases p.advanced <;> cases p.strategy.service.hasWaiters <;>
    simp [privateField, Field.plain, hField, hFixed]

------------------------------------------------------------
-- The Asynchronous Client
------------------------------------------------------------

/- Parameters, with a configuration or without. -/
def passedTokens
    (takesAdvanced : Bool) :
    List Token :=
  .word clientParamsName ::
    if takesAdvanced then
      [.symbol ',', .word advancedConfigurationName]
    else []

/- The client that is kept is made of them. -/
def syncClientTokens
    (n : Names)
    (takesAdvanced : Bool) :
    List Token :=
  [.word "new", .type (.class n.syncClient), .symbol '('] ++
    passedTokens takesAdvanced ++ [.symbol ')']

/- The executor is asked for. -/
def executorTokens :
    List Token :=
  [.word clientParamsName, .symbol '.', .word "getExecutor",
    .symbol '(', .symbol ')']

/- Both fields are set one after the other. -/
theorem reads_asyncInitialization
    (n : Names)
    (advanced : Option ClassName) :
    Reads (asyncInitialization n advanced)
      ((assignmentTokens syncClientField
          (syncClientTokens n advanced.isSome) ++
          [.symbol ';']) ++
        (assignmentTokens executorField executorTokens ++
          [.symbol ';'])) := by
  have hField :
      Reads
        [.text ("this." ++ syncClientField ++ " = "),
          .text "new "]
        (assignmentTokens syncClientField [.word "new"]) := by
    unfold Reads
    decide +kernel
  have hArguments :
      ∀ takesAdvanced : Bool,
        Reads
          [.text ("(" ++
              (if takesAdvanced then
                clientParamsName ++ ", " ++
                  advancedConfigurationName
                else clientParamsName) ++ ")"),
            .text ";\n"]
          (.symbol '(' :: passedTokens takesAdvanced ++
            [.symbol ')', .symbol ';']) := by
    unfold Reads
    decide +kernel
  have hExecutor :
      Reads
        (assign executorField
          [clientParamsName ++ ".getExecutor()"])
        (assignmentTokens executorField executorTokens ++
          [.symbol ';']) := by
    unfold Reads
    decide +kernel
  have hReads :=
    (hField.append ((reads_type (.class n.syncClient)).cons
      (hArguments advanced.isSome))).append hExecutor
  cases advanced <;> exact hReads

/- Both constructors of the other client set its fields. -/
theorem assigns_asyncInitialization
    (n : Names)
    (advanced : Option ClassName) :
    Assigns (asyncInitialization n advanced)
      [syncClientField, executorField] := by
  have hClient :
      IsAssignment syncClientField
        (assignmentTokens syncClientField
          (syncClientTokens n advanced.isSome)) := by
    apply isAssignment_assignmentTokens <;>
      cases advanced <;>
      simp [syncClientTokens, passedTokens]
  have hExecutor :
      IsAssignment executorField
        (assignmentTokens executorField executorTokens) :=
    isAssignment_assignmentTokens (by decide) (by decide)
  refine ⟨[_, _], ?_, .cons hClient (.cons hExecutor .nil)⟩
  simpa using reads_asyncInitialization n advanced

/- The other client is configured, too. -/
theorem configuredClient_asyncClient
    (n : Names)
    (advanced : Option ClassName)
    (operations : List OperationTypes) :
    ConfiguredClient Sdk.awsAsyncClientParams advanced
      (asyncClient n advanced operations) := by
  have hAssigns := assigns_asyncInitialization n advanced
  have hConstructors :
      (asyncClient n advanced operations).constructors =
        clientConstructors Sdk.awsAsyncClientParams advanced
          (asyncInitialization n advanced) := by
    have hOthers :
        ∀ m ∈ operations.map delegatedOperation ++
            [closing syncClientField],
          m.isConstructor = false := by
      rw [List.forall_mem_append, List.forall_mem_map]
      exact ⟨fun _ _ => rfl, List.forall_mem_singleton.mpr rfl⟩
    unfold TypeDecl.constructors asyncClient
    rw [List.append_assoc, List.filter_append,
      filter_isConstructor_eq_nil hOthers, List.append_nil]
    exact filter_isConstructor_clientConstructors _ _ _
  refine configuredClient_of_constructors hConstructors
    hAssigns.delegation?_eq_none
    (hAssigns.setsFinalFields (by decide) ?_)
  intro f hF _
  simp only [asyncClient, List.mem_cons, List.not_mem_nil,
    or_false] at hF
  rcases hF with rfl | rfl <;>
    simp [privateField, Field.plain]

end ClientGen.Client
