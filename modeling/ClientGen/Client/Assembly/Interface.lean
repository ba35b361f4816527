import ClientGen.Client.Interface

/-
  The interfaces that clients implement, written in the
  format language.

  Key definitions include:
    * `Assembly.declaredOperation`
    * `Assembly.syncInterface`
    * `Assembly.asyncInterface`

  The names of operations are checked one operation after
  the other, and those of configured classes where they are
  written.
-/

namespace ClientGen.Client.Assembly

open ClientGen.Java ClientGen.Model

------------------------------------------------------------
-- Members
------------------------------------------------------------

/- An operation as an interface declares it. -/
def declaredOperation
    (n : Names)
    (flavour : Flavour)
    (o : Operation) :
    Except GenerationError Method := do
  let types ← n.operation o
  Method.withSteps {
      kind := .method types.method.text
      javadoc := some (operationJavadoc flavour types)
      annotations :=
        if o.deprecated then [.deprecated] else []
      modifiers := [.default]
      returns := flavour.returned types.response
      parameters := [types.parameter] }
    [.statement "throw new $T()"
      [Sdk.unsupportedOperationException]]

/- The static method that makes a builder. -/
def builderFactory
    (n : Names)
    (flavour : Flavour)
    (javadoc : Option String) :
    Except CodeError Method :=
  Method.withSteps {
      kind := .method "builder"
      javadoc
      modifiers := [.static]
      returns := .class (n.builderInterface flavour) }
    [.statement "return new $T()" [n.builder flavour]]

/- The static method that makes a client with defaults. -/
def clientFactory
    (n : Names)
    (flavour : Flavour)
    (javadoc : Option String) :
    Except CodeError Method :=
  Method.withSteps {
      kind := .method "create"
      javadoc
      modifiers := [.static]
      returns := .class (n.interface flavour) }
    [.statement "return builder().build()" []]

/- The static method that tells where the service is. -/
def metadataFactory
    (endpointPrefix : String) :
    Except CodeError Method :=
  Method.withSteps {
      kind := .method "serviceMetadata"
      modifiers := [.static]
      returns := .class Sdk.serviceMetadata }
    [.statement "return $T.of($S)"
      [Sdk.serviceMetadata, endpointPrefix]]

/- A method without a body. -/
def accessor
    (name : String)
    (returned : ClassName) :
    Except CodeError Method :=
  Method.withSteps {
      kind := .method name
      returns := .class returned }
    []

------------------------------------------------------------
-- Interfaces
------------------------------------------------------------

/- The interface of synchronous clients. -/
def syncInterface
    (s : Service)
    (n : Names) :
    Except GenerationError TypeDecl := do
  let self := n.syncInterface.simple
  let builder ←
    builderFactory n .sync (some (builderFactoryJavadoc self))
  let create ←
    clientFactory n .sync (some (clientFactoryJavadoc self))
  let operations ←
    s.operations.values.mapM (declaredOperation n .sync)
  let metadata ← metadataFactory s.metadata.endpointPrefix
  let waiters ←
    if s.hasWaiters then
      let waiters ← accessor waitersAccessor n.waiters
      .ok [waiters]
    else .ok []
  let presigners ←
    match ← n.presigners s with
    | some presigners => do
        let presigners ← accessor presignersAccessor presigners
        .ok [presigners]
    | none => .ok []
  .ok {
    kind := .interfaceType
    name := self
    javadoc :=
      some ("Service client for accessing " ++
        n.service.text ++ ".")
    modifiers := [.publicAccess]
    superinterfaces := [.class Sdk.autoCloseable]
    methods :=
      [builder, create] ++ operations ++ [metadata] ++
        waiters ++ presigners }

/- The interface of asynchronous clients. -/
def asyncInterface
    (s : Service)
    (n : Names) :
    Except GenerationError TypeDecl := do
  let builder ← builderFactory n .async none
  let create ← clientFactory n .async none
  let operations ←
    s.operations.values.mapM (declaredOperation n .async)
  .ok {
    kind := .interfaceType
    name := n.asyncInterface.simple
    javadoc :=
      some ("Service client for accessing " ++
        n.service.text ++ " asynchronously.")
    modifiers := [.publicAccess]
    superinterfaces := [.class Sdk.autoCloseable]
    methods := [builder, create] ++ operations }

end ClientGen.Client.Assembly
