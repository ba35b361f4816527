import ClientGen.Client.Assembly.Strategy
import ClientGen.Client.SyncClient

/-
  The client that talks to the service, written in the
  format language.

  Key definitions include:
    * `Assembly.delegatingConstructor`
    * `Assembly.syncConstructors`
    * `Assembly.implementedOperation`
    * `Assembly.syncClient`
-/

namespace ClientGen.Client.Assembly

open ClientGen.Java ClientGen.Model

------------------------------------------------------------
-- Members of All Clients
------------------------------------------------------------

/- The constructor that leaves the configuration out. -/
def delegatingConstructor
    (params : Parameter) :
    Except CodeError Method :=
  Method.withSteps (protectedConstructor [params] [])
    [.statement "this($N, null)" [clientParamsName]]

/- The method that closes a client by closing a field. -/
def closing
    (name : String) :
    Except CodeError Method :=
  Method.withSteps
    { implemented "close" .void [] [] with
      throws := [.class Sdk.exception] }
    [.statement "$N.close()" [name]]

------------------------------------------------------------
-- Constructors
------------------------------------------------------------

/- The steps that set all fields. -/
def initialization
    (s : Service)
    (t : Client.Strategy)
    (takesAdvanced : Bool) :
    List Step :=
  [.add
      ("this.$N = new $T(new $T()" ++
        ".withClientParams($N)\n$>$>")
      [clientHandlerField, t.handlerClass,
        Sdk.clientHandlerParams, clientParamsName]] ++
  (if takesAdvanced then
    [.add ".withServiceAdvancedConfiguration($N)\n"
      [advancedConfigurationName]]
    else []) ++
  [.add
      (".withCalculateCrc32FromCompressedDataEnabled($L));" ++
        "\n$<$<")
      [boolText
        s.customization.calculateCrc32FromCompressedData],
    .statement "this.$N = $N"
      [clientParamsName, clientParamsName]] ++
  (if takesAdvanced then
    [.statement "this.$N = $N"
      [advancedConfigurationName, advancedConfigurationName]]
    else []) ++
  [.statement "this.$N = $N()" [t.field.name, initMethod]]

/-
  One constructor, or two if there is a configuration: the
  first one then goes without it.
-/
def syncConstructors
    (s : Service)
    (t : Client.Strategy)
    (advanced : Option ClassName) :
    Except CodeError (List Method) := do
  let params :=
    Parameter.plain (.class Sdk.awsSyncClientParams)
      clientParamsName
  match advanced with
  | none =>
      let only ←
        Method.withSteps (protectedConstructor [params] [])
          (initialization s t false)
      .ok [only]
  | some advanced =>
      let delegating ← delegatingConstructor params
      let full ←
        Method.withSteps
          (protectedConstructor
            [params, Parameter.plain (.class advanced)
              advancedConfigurationName] [])
          (initialization s t true)
      .ok [delegating, full]

------------------------------------------------------------
-- Methods
------------------------------------------------------------

/- An operation as the client carries it out. -/
def implementedOperation
    (n : Names)
    (t : Client.Strategy)
    (o : Operation) :
    Except GenerationError Method := do
  let types ← n.operation o
  let response ← Strategy.responseHandler t o
  let error ← Strategy.errorHandler t
  let call ← Strategy.executionCall t o
  Method.withSteps
    (implemented types.method.text (.class types.response)
      [types.parameter] [])
    [.code response, .add "\n" [], .code error, .add "\n" [],
      .code call]

/- The method that makes the waiters once. -/
def lazyWaiters
    (waiters : ClassName) :
    Except CodeError Method :=
  Method.withSteps
    (implemented waitersAccessor (.class waiters) [] [])
    [.beginBlock "if ($N == null)" [waitersAccessor],
      .beginBlock "synchronized (this)" [],
      .beginBlock "if ($N == null)" [waitersAccessor],
      .statement "$N = new $T(this)"
        [waitersAccessor, waiters],
      .endBlock, .endBlock, .endBlock,
      .statement "return $N" [waitersAccessor]]

/- The method that makes new presigners. -/
def newPresigners
    (presigners : ClassName) :
    Except CodeError Method :=
  Method.withSteps
    (implemented presignersAccessor (.class presigners) [] [])
    [.add "return new $T($T.builder()\n$>$>"
        [presigners, Sdk.presignerParams],
      .add ".endpoint($N.getEndpoint())\n"
        [clientParamsName],
      .add
        (".credentialsProvider(" ++
          "$N.getCredentialsProvider())\n")
        [clientParamsName],
      .add ".signerProvider($N.getSignerProvider())\n"
        [clientParamsName],
      .add ".build());\n$<$<" []]

------------------------------------------------------------
-- The Client
------------------------------------------------------------

/-
  The client, with the classes that are configured.  Every
  operation is checked on its way, then the exceptions.
-/
def syncClient
    (s : Service)
    (n : Names)
    (t : Client.Strategy)
    (advanced presigners : Option ClassName) :
    Except GenerationError TypeDecl := do
  let constructors ← syncConstructors s t advanced
  let operations ←
    s.operations.values.mapM (implementedOperation n t)
  let helper ← Strategy.helper t
  let initializer ← Strategy.initializer t
  let waiters ←
    if s.hasWaiters then
      let waiters ← lazyWaiters n.waiters
      .ok [waiters]
    else .ok []
  let presigners ←
    (presigners.mapM newPresigners : Except CodeError _)
  let close ← closing clientHandlerField
  let additional ← Strategy.additional t
  .ok {
    kind := .classType
    name := n.syncClient.simple
    superinterfaces := [.class n.syncInterface]
    fields := syncFields s n t advanced
    methods :=
      constructors ++ operations ++ helper.toList ++
        [initializer] ++ waiters ++ presigners.toList ++
        [close] ++ additional }

end ClientGen.Client.Assembly
