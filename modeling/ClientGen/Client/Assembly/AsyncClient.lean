import ClientGen.Client.Assembly.SyncClient
import ClientGen.Client.AsyncClient

/-
  The client that hands its operations to an executor,
  written in the format language.

  Key definitions include:
    * `Assembly.delegatedOperation`
    * `Assembly.asyncClient`
-/

namespace ClientGen.Client.Assembly

open ClientGen.Java ClientGen.Model

/- An operation as it is handed to the executor. -/
def delegatedOperation
    (n : Names)
    (o : Operation) :
    Except GenerationError Method := do
  let types ← n.operation o
  Method.withSteps
    (implemented types.method.text
      (Flavour.async.returned types.response)
      [types.parameter] [])
    [.statement "return $T.supplyAsync(() -> $N.$N($N), $N)"
      [Sdk.completableFuture, syncClientField,
        types.method.text, types.input.text, executorField]]

/- The constructors, with a configuration or without. -/
def asyncConstructors
    (n : Names)
    (advanced : Option ClassName) :
    Except CodeError (List Method) := do
  let params :=
    Parameter.plain (.class Sdk.awsAsyncClientParams)
      clientParamsName
  let setExecutor : Step :=
    .statement "this.$N = $N.getExecutor()"
      [executorField, clientParamsName]
  match advanced with
  | none =>
      let only ←
        Method.withSteps (protectedConstructor [params] [])
          [.statement "this.$N = new $T($N)"
              [syncClientField, n.syncClient,
                clientParamsName],
            setExecutor]
      .ok [only]
  | some advanced =>
      let delegating ← delegatingConstructor params
      let full ←
        Method.withSteps
          (protectedConstructor
            [params, Parameter.plain (.class advanced)
              advancedConfigurationName] [])
          [.statement "this.$N = new $T($N, $N)"
              [syncClientField, n.syncClient,
                clientParamsName, advancedConfigurationName],
            setExecutor]
      .ok [delegating, full]

/- The asynchronous client. -/
def asyncClient
    (s : Service)
    (n : Names)
    (advanced : Option ClassName) :
    Except GenerationError TypeDecl := do
  let constructors ← asyncConstructors n advanced
  let operations ←
    s.operations.values.mapM (delegatedOperation n)
  let close ← closing syncClientField
  .ok {
    kind := .classType
    name := n.asyncClient.simple
    superinterfaces := [.class n.asyncInterface]
    fields :=
      [privateField (.class n.syncInterface) syncClientField,
        privateField (.class Sdk.executorService)
          executorField]
    methods := constructors ++ operations ++ [close] }

end ClientGen.Client.Assembly
