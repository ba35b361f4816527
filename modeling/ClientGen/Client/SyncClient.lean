import ClientGen.Client.Interface
import ClientGen.Client.Strategy

/-
  The client that talks to the service.

  Key definitions include:
    * `implementedOperation`
    * `SyncParts`
    * `SyncParts.constructors`
    * `SyncParts.declaration`

  All that depends on the protocol is asked of the strategy.
-/

namespace ClientGen.Client

open ClientGen.Java ClientGen.Model

------------------------------------------------------------
-- Members of All Clients
------------------------------------------------------------

/- A field that is set once. -/
def privateField
    (type : TypeName)
    (name : String) :
    Field :=
  Field.plain type name [.privateAccess, .final]

/- The statement that sets a field. -/
def assign
    (name : String)
    (value : List Code.Part) :
    List Code.Part :=
  statement (.text ("this." ++ name ++ " = ") :: value)

/- A constructor that subclasses and builders use. -/
def protectedConstructor
    (parameters : List Parameter)
    (body : List Code.Part) :
    Method where
  kind := .constructor
  modifiers := [.protectedAccess]
  parameters
  body := Code.ofParts body

/-
  The constructors of a client.  A client with a
  configuration of its own can also be made without one.
-/
def clientConstructors
    (params : ClassName)
    (advanced : Option ClassName)
    (body : List Code.Part) :
    List Method :=
  let params :=
    Parameter.plain (.class params) clientParamsName
  match advanced with
  | none => [protectedConstructor [params] body]
  | some advanced =>
      [protectedConstructor [params]
          (statement ["this(" ++ clientParamsName ++ ", null)"]),
        protectedConstructor
          [params, Parameter.plain (.class advanced)
            advancedConfigurationName]
          body]

/- A public method that implements one of the interface. -/
def implemented
    (name : String)
    (returned : TypeName)
    (parameters : List Parameter)
    (body : List Code.Part) :
    Method where
  kind := .method name
  annotations := [.overriding]
  modifiers := [.publicAccess]
  returns := returned
  parameters
  body := Code.ofParts body

/- The method that closes a client by closing a field. -/
def closing
    (name : String) :
    Method :=
  { implemented "close" .void []
      (statement [name ++ ".close()"]) with
    throws := [.class Sdk.exception] }

------------------------------------------------------------
-- Methods
------------------------------------------------------------

/- An operation as the client carries it out. -/
def implementedOperation
    (t : Strategy)
    (types : OperationTypes) :
    Method :=
  implemented types.method.text (.class types.response)
    [types.parameter]
    (t.responseHandler types ++ [.text "\n"] ++
      t.errorHandler ++ [.text "\n"] ++
      t.executionCall types)

/-
  The method that makes the waiters when they are first
  asked for, and only once.
-/
def lazyWaiters
    (waiters : ClassName) :
    Method :=
  let absent : List Code.Part :=
    ["if (" ++ waitersAccessor ++ " == null)"]
  implemented waitersAccessor (.class waiters) []
    (block absent
      (block ["synchronized (this)"]
        (block absent
          (statement
            [waitersAccessor ++ " = new ", waiters,
              "(this)"]))) ++
      statement ["return " ++ waitersAccessor])

/- The method that makes new presigners. -/
def newPresigners
    (presigners : ClassName) :
    Method :=
  implemented presignersAccessor (.class presigners) []
    (continued
      ["return new ", presigners, "(", Sdk.presignerParams,
        ".builder()\n"]
      [".endpoint(" ++ clientParamsName ++
          ".getEndpoint())\n",
        ".credentialsProvider(" ++ clientParamsName ++
          ".getCredentialsProvider())\n",
        ".signerProvider(" ++ clientParamsName ++
          ".getSignerProvider())\n",
        ".build());\n"])

------------------------------------------------------------
-- The Client
------------------------------------------------------------

/-
  What a client is made of, once every name that it refers
  to has been checked.
-/
structure SyncParts where
  strategy : Strategy
  advanced : Option ClassName
  presigners : Option ClassName
  operations : List OperationTypes
  initializer : Method
  deriving DecidableEq, Repr

/- The fields of a client. -/
def syncFields
    (s : Service)
    (n : Names)
    (t : Strategy)
    (advanced : Option ClassName) :
    List Field :=
  [privateField (.class Sdk.clientHandler) clientHandlerField,
    t.field,
    privateField (.class Sdk.awsSyncClientParams)
      clientParamsName] ++
  advanced.toList.map (fun advanced =>
    privateField (.class advanced)
      advancedConfigurationName) ++
  (if s.hasWaiters then
    [Field.plain (.class n.waiters)
      waitersAccessor [.privateAccess, .volatile]]
    else [])

namespace SyncParts

/- The fields of the client. -/
def fields
    (p : SyncParts) :
    List Field :=
  syncFields p.strategy.service p.strategy.names p.strategy
    p.advanced

/- What the handler of requests is told. -/
def handlerSettings
    (p : SyncParts) :
    List Code.Part :=
  (if p.advanced.isSome then
    [.text (".withServiceAdvancedConfiguration(" ++
      advancedConfigurationName ++ ")\n")]
    else []) ++
  [.text (".withCalculateCrc32FromCompressedDataEnabled(" ++
    boolText
      p.strategy.service.customization.calculateCrc32FromCompressedData ++
    "));\n")]

/- The statements that set all fields. -/
def initialization
    (p : SyncParts) :
    List Code.Part :=
  continued
    ["this." ++ clientHandlerField ++ " = new ",
      p.strategy.handlerClass, "(new ",
      Sdk.clientHandlerParams,
      "().withClientParams(" ++ clientParamsName ++ ")\n"]
    p.handlerSettings ++
  assign clientParamsName [clientParamsName] ++
  (if p.advanced.isSome then
    assign advancedConfigurationName
      [advancedConfigurationName]
    else []) ++
  assign p.strategy.field.name [initMethod ++ "()"]

/- The constructors of the client. -/
def constructors
    (p : SyncParts) :
    List Method :=
  clientConstructors Sdk.awsSyncClientParams p.advanced
    p.initialization

/- The methods of the client, constructors included. -/
def methods
    (p : SyncParts) :
    List Method :=
  p.constructors ++
    p.operations.map (implementedOperation p.strategy) ++
    p.strategy.helper.toList ++
    [p.initializer] ++
    (if p.strategy.service.hasWaiters then
      [lazyWaiters p.strategy.names.waiters]
      else []) ++
    p.presigners.toList.map newPresigners ++
    [closing clientHandlerField] ++
    p.strategy.additional

/- The client. -/
def declaration
    (p : SyncParts) :
    TypeDecl where
  kind := .classType
  name := p.strategy.names.syncClient.simple
  superinterfaces := [.class p.strategy.names.syncInterface]
  fields := p.fields
  methods := p.methods

end SyncParts

end ClientGen.Client
