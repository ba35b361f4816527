import ClientGen.Client.Execution
import ClientGen.Text.Blank

/-
  The interfaces that clients implement.

  Key definitions include:
    * `Flavour`
    * `Names.interface`
    * `link`
    * `operationJavadoc`
    * `declaredOperation`
    * `syncInterface`
    * `asyncInterface`

  Every operation is a default method that throws, so that
  clients for tests implement only what they need.
-/

namespace ClientGen.Client

open ClientGen.Java ClientGen.Model ClientGen.Text

------------------------------------------------------------
-- Flavours
------------------------------------------------------------

/-
  A client answers at once, or returns futures.
-/
inductive Flavour where
  | sync
  | async
  deriving DecidableEq, Repr

/- The interface of clients of a flavour. -/
def Names.interface
    (n : Names) :
    Flavour → ClassName
  | .sync => n.syncInterface
  | .async => n.asyncInterface

/- The clients of a flavour. -/
def Names.client
    (n : Names) :
    Flavour → ClassName
  | .sync => n.syncClient
  | .async => n.asyncClient

/- The interface of builders of a flavour. -/
def Names.builderInterface
    (n : Names) :
    Flavour → ClassName
  | .sync => n.syncBuilderInterface
  | .async => n.asyncBuilderInterface

/- The builders of a flavour. -/
def Names.builder
    (n : Names) :
    Flavour → ClassName
  | .sync => n.syncBuilder
  | .async => n.asyncBuilder

/- What an operation of a client returns. -/
def Flavour.returned
    (response : ClassName) :
    Flavour → TypeName
  | .sync => .class response
  | .async =>
      .generic Sdk.completableFuture [.class response]

------------------------------------------------------------
-- Documentation
------------------------------------------------------------

/- A reference to a class, or to a member of one. -/
def link
    (target : String) :
    String :=
  "\x7b@link " ++ target ++ "\x7d"

/- The first words on an operation. -/
def operationSummary
    (o : Operation) :
    String :=
  let documented := (o.documentation.map trimmed).getD ""
  if documented = "" then
    "Invokes the " ++ o.name ++ " operation."
  else documented

/- What a caller gets from an operation. -/
def Flavour.resultJavadoc
    (operation : String) :
    Flavour → String
  | .sync =>
      "Result of the " ++ operation ++
        " operation returned by the service."
  | .async =>
      "A future completing with the result of the " ++
        operation ++ " operation returned by the service."

/- The documentation of an operation. -/
def operationJavadoc
    (flavour : Flavour)
    (types : OperationTypes) :
    String :=
  let name := types.operation.name
  operationSummary types.operation ++
    "\n\n@param " ++ types.input.text ++ " the " ++ name ++
    " request\n@return " ++ flavour.resultJavadoc name

------------------------------------------------------------
-- Members
------------------------------------------------------------

/- The parameter of an operation. -/
def OperationTypes.parameter
    (types : OperationTypes) :
    Parameter :=
  Parameter.plain (.class types.request) types.input.text

/- An operation as an interface declares it. -/
def declaredOperation
    (flavour : Flavour)
    (types : OperationTypes) :
    Method where
  kind := .method types.method.text
  javadoc := some (operationJavadoc flavour types)
  annotations :=
    if types.operation.deprecated then
      [.deprecated]
    else []
  modifiers := [.default]
  returns := flavour.returned types.response
  parameters := [types.parameter]
  body := Code.ofParts (statement
    ["throw new ", Sdk.unsupportedOperationException, "()"])

/- The static method that makes a builder. -/
def builderFactory
    (n : Names)
    (flavour : Flavour)
    (javadoc : Option String) :
    Method where
  kind := .method "builder"
  javadoc
  modifiers := [.static]
  returns := .class (n.builderInterface flavour)
  body := Code.ofParts (statement
    ["return new ", n.builder flavour, "()"])

/- The static method that makes a client with defaults. -/
def clientFactory
    (n : Names)
    (flavour : Flavour)
    (javadoc : Option String) :
    Method where
  kind := .method "create"
  javadoc
  modifiers := [.static]
  returns := .class (n.interface flavour)
  body := Code.ofParts (statement
    ["return builder().build()"])

/- The static method that tells where the service is. -/
def metadataFactory
    (endpointPrefix : String) :
    Method where
  kind := .method "serviceMetadata"
  modifiers := [.static]
  returns := .class Sdk.serviceMetadata
  body := Code.ofParts (statement
    ["return ", Sdk.serviceMetadata, ".of(",
      quotedText endpointPrefix, ")"])

/- The method that gives access to the waiters. -/
def waitersAccessor : String :=
  "waiters"

/- The method that gives access to the presigners. -/
def presignersAccessor : String :=
  "presigners"

/- A method without a body. -/
def accessor
    (name : String)
    (returned : ClassName) :
    Method where
  kind := .method name
  returns := .class returned

------------------------------------------------------------
-- Interfaces
------------------------------------------------------------

/- The documentation of a method that makes builders. -/
def builderFactoryJavadoc
    (self : String) :
    String :=
  "Create a builder that can be used to configure and " ++
    "create a " ++ link self ++ "."

/- The documentation of a method that makes clients. -/
def clientFactoryJavadoc
    (self : String) :
    String :=
  "Create a " ++ link self ++ " with the region loaded " ++
    "from the default provider chain."

/- The interface of synchronous clients. -/
def syncInterface
    (s : Service)
    (n : Names)
    (operations : List OperationTypes)
    (presigners : Option ClassName) :
    TypeDecl :=
  let self := n.syncInterface.simple
  { kind := .interfaceType
    name := self
    javadoc :=
      some ("Service client for accessing " ++
        n.service.text ++ ".")
    modifiers := [.publicAccess]
    superinterfaces := [.class Sdk.autoCloseable]
    methods :=
      [builderFactory n .sync
          (some (builderFactoryJavadoc self)),
        clientFactory n .sync
          (some (clientFactoryJavadoc self))] ++
      operations.map (declaredOperation .sync) ++
      [metadataFactory s.metadata.endpointPrefix] ++
      (if s.hasWaiters then
        [accessor waitersAccessor n.waiters]
        else []) ++
      presigners.toList.map (accessor presignersAccessor) }

/- The interface of asynchronous clients. -/
def asyncInterface
    (n : Names)
    (operations : List OperationTypes) :
    TypeDecl where
  kind := .interfaceType
  name := n.asyncInterface.simple
  javadoc :=
    some ("Service client for accessing " ++ n.service.text ++
      " asynchronously.")
  modifiers := [.publicAccess]
  superinterfaces := [.class Sdk.autoCloseable]
  methods :=
    [builderFactory n .async none,
      clientFactory n .async none] ++
    operations.map (declaredOperation .async)

end ClientGen.Client
