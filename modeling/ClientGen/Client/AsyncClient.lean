import ClientGen.Client.SyncClient

/-
  The client that hands every operation to an executor,
  where a synchronous client carries it out.

  Key definitions include:
    * `delegatedOperation`
    * `asyncClient`
-/

namespace ClientGen.Client

open ClientGen.Java ClientGen.Model

/- The field with the synchronous client. -/
def syncClientField : String :=
  "syncClient"

/- The field with the executor. -/
def executorField : String :=
  "executor"

/- An operation as it is handed to the executor. -/
def delegatedOperation
    (types : OperationTypes) :
    Method :=
  implemented types.method.text
    (Flavour.async.returned types.response)
    [types.parameter]
    (statement
      ["return ", Sdk.completableFuture,
        ".supplyAsync(() -> " ++ syncClientField ++ "." ++
          types.method.text ++ "(" ++ types.input.text ++
          "), " ++ executorField ++ ")"])

/- The statements that set both fields. -/
def asyncInitialization
    (n : Names)
    (advanced : Option ClassName) :
    List Code.Part :=
  let arguments :=
    if advanced.isSome then
      clientParamsName ++ ", " ++ advancedConfigurationName
    else clientParamsName
  assign syncClientField
    ["new ", n.syncClient, "(" ++ arguments ++ ")"] ++
  assign executorField [clientParamsName ++ ".getExecutor()"]

/- The asynchronous client. -/
def asyncClient
    (n : Names)
    (advanced : Option ClassName)
    (operations : List OperationTypes) :
    TypeDecl where
  kind := .classType
  name := n.asyncClient.simple
  superinterfaces := [.class n.asyncInterface]
  fields :=
    [privateField (.class n.syncInterface) syncClientField,
      privateField (.class Sdk.executorService) executorField]
  methods :=
    clientConstructors Sdk.awsAsyncClientParams advanced
      (asyncInitialization n advanced) ++
    operations.map delegatedOperation ++
    [closing syncClientField]

end ClientGen.Client
