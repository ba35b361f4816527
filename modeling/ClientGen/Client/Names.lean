import ClientGen.Java.Format
import ClientGen.Java.Name
import ClientGen.Model.Service
import ClientGen.Text.Blank

/-
  The names of everything that is generated for a service.

  Key definitions include:
    * `GenerationError`
    * `Identifier`
    * `PackageName`
    * `resolveClass`
    * `Names`
    * `Names.ofService`
    * `OperationNames`
    * `Names.operation`

  Names come from the model as any text.  They are checked
  where they are turned into identifiers and packages, and
  carry the proof of it from there on.
-/

namespace ClientGen.Client

open ClientGen.Java ClientGen.Model ClientGen.Text

------------------------------------------------------------
-- Errors
------------------------------------------------------------

/- Why nothing can be generated for a service. -/
inductive GenerationError where
  | unknownProtocol (name : String)
  | notIdentifier (what name : String)
  | notPackage (name : String)
  | notClass (what name : String)
  | noJsonVersion
  | code (e : CodeError)
  deriving DecidableEq, Repr

/- Code that cannot be put together stops generation. -/
instance :
    MonadLift (Except CodeError) (Except GenerationError) :=
  ⟨Except.mapError GenerationError.code⟩

/- What is said of data that the model lacks. -/
def missingData
    (what : String) :
    String :=
  "Missing required model data: " ++ what

/- The wording of an error. -/
def GenerationError.message : GenerationError → String
  | .unknownProtocol name => unknownProtocolMessage name
  | .notIdentifier what name =>
      missingData (what ++ " '" ++ name ++
        "' is not a valid Java identifier")
  | .notPackage name =>
      missingData ("client package '" ++ name ++
        "' is not a valid Java package")
  | .notClass what name =>
      missingData (what ++ " '" ++ name ++
        "' does not name a class")
  | .noJsonVersion => missingData "jsonVersion"
  | .code e => e.message

------------------------------------------------------------
-- Checked Names
------------------------------------------------------------

/- A Java identifier. -/
structure Identifier where
  text : String
  valid : isIdentifier text = true
  deriving DecidableEq, Repr

/- The identifier of a name that plays some part. -/
def Identifier.require
    (what name : String) :
    Except GenerationError Identifier :=
  if h : isIdentifier name = true then .ok ⟨name, h⟩
  else .error (.notIdentifier what name)

/- The name of a package with a name. -/
structure PackageName where
  text : String
  valid : isQualifiedName text = true
  deriving DecidableEq, Repr

/- The package of that name, for the clients. -/
def PackageName.require
    (name : String) :
    Except GenerationError PackageName :=
  if h : isQualifiedName name = true then .ok ⟨name, h⟩
  else .error (.notPackage name)

/-
  The class that a configured name means: the name itself if
  it names a package, and else a class of the default one.
-/
def resolveClass
    (name defaultPackage what : String) :
    Except GenerationError ClassName :=
  let bare := trimmed name
  if isQualifiedName bare then
    .ok (if bare.toList.contains '.'
      then ClassName.ofQualified bare
      else ClassName.inPackage defaultPackage bare)
  else .error (.notClass what bare)

------------------------------------------------------------
-- Names of a Service
------------------------------------------------------------

/-
  The names that all names of a client family are made of.
-/
structure Names where
  service : Identifier
  package : PackageName
  baseExceptionName : Identifier
  deriving DecidableEq, Repr

namespace Names

/- The names of a service, if they can be used in Java. -/
def ofService
    (s : Service) :
    Except GenerationError Names := do
  let service ←
    Identifier.require "service name" s.metadata.serviceName
  let package ←
    PackageName.require s.metadata.clientPackageName
  let baseExceptionName ←
    Identifier.require "base exception"
      s.metadata.effectiveBaseException
  .ok ⟨service, package, baseExceptionName⟩

/- A class beside the clients. -/
def clientClass
    (n : Names)
    (before after : String) :
    ClassName :=
  ClassName.inPackage n.package.text
    (before ++ n.service.text ++ after)

def syncInterface (n : Names) : ClassName :=
  n.clientClass "" "Client"

def syncClient (n : Names) : ClassName :=
  n.clientClass "Default" "Client"

def asyncInterface (n : Names) : ClassName :=
  n.clientClass "" "AsyncClient"

def asyncClient (n : Names) : ClassName :=
  n.clientClass "Default" "AsyncClient"

def syncBuilderInterface (n : Names) : ClassName :=
  n.clientClass "" "ClientBuilder"

def syncBuilder (n : Names) : ClassName :=
  n.clientClass "Default" "ClientBuilder"

def asyncBuilderInterface (n : Names) : ClassName :=
  n.clientClass "" "AsyncClientBuilder"

def asyncBuilder (n : Names) : ClassName :=
  n.clientClass "Default" "AsyncClientBuilder"

def baseBuilder (n : Names) : ClassName :=
  n.clientClass "Default" "BaseClientBuilder"

/- The factory that only services behind a gateway have. -/
def protocolFactory (n : Names) : ClassName :=
  n.clientClass "" "ProtocolFactory"

/- A class in a package below that of the clients. -/
def classBelow
    (n : Names)
    (subpackage simple : String) :
    ClassName :=
  ClassName.inPackage (n.package.text ++ "." ++ subpackage)
    simple

/- A model class. -/
def modelClass
    (n : Names)
    (simple : String) :
    ClassName :=
  n.classBelow "model" simple

/- A marshaller or unmarshaller. -/
def transformClass
    (n : Names)
    (simple : String) :
    ClassName :=
  n.classBelow "transform" simple

/- The class of the service's waiters. -/
def waiters (n : Names) : ClassName :=
  n.classBelow "waiters" (n.service.text ++ "ClientWaiters")

/- The class that all exceptions of the service extend. -/
def baseException (n : Names) : ClassName :=
  n.modelClass n.baseExceptionName.text

------------------------------------------------------------
-- Configured Classes
------------------------------------------------------------

/- The configuration class of the service, if it has one. -/
def advancedConfiguration
    (n : Names)
    (s : Service) :
    Except GenerationError (Option ClassName) :=
  s.customization.clientConfigClass.mapM fun name =>
    resolveClass name n.package.text
      "advanced configuration class"

/- The presigners of the service, if it has any. -/
def presigners
    (n : Names)
    (s : Service) :
    Except GenerationError (Option ClassName) :=
  s.customization.presignersClass.mapM fun name =>
    resolveClass name (n.package.text ++ ".presign")
      "presigners class"

end Names

------------------------------------------------------------
-- Names of Operations and Exceptions
------------------------------------------------------------

/- The names that one operation's method refers to. -/
structure OperationNames where
  method : Identifier
  input : Identifier
  requestType : Identifier
  inputShape : Identifier
  returnType : Identifier
  deriving DecidableEq, Repr

/- The names of an operation, checked one after the other. -/
def OperationNames.ofOperation
    (o : Operation) :
    Except GenerationError OperationNames := do
  let method ← Identifier.require "method name" o.methodName
  let input ← Identifier.require "input variable" o.input.name
  let requestType ←
    Identifier.require "input type" o.input.type
  let inputShape ←
    Identifier.require "input shape" o.inputShape
  let returnType ←
    Identifier.require "return type" o.returnType
  .ok ⟨method, input, requestType, inputShape, returnType⟩

/- What is written at the end of an unmarshaller's name. -/
def unmarshallerName
    (name : String) :
    String :=
  name ++ "Unmarshaller"

/- An operation with its classes. -/
structure OperationTypes where
  operation : Operation
  method : Identifier
  input : Identifier
  request : ClassName
  response : ClassName
  marshaller : ClassName
  unmarshaller : ClassName
  deriving DecidableEq, Repr

/- An exception with its classes. -/
structure ExceptionTypes where
  shape : Shape
  name : Identifier
  exception : ClassName
  unmarshaller : ClassName
  deriving DecidableEq, Repr

namespace Names

/- The classes of an operation. -/
def operation
    (n : Names)
    (o : Operation) :
    Except GenerationError OperationTypes := do
  let names ← OperationNames.ofOperation o
  .ok {
    operation := o
    method := names.method
    input := names.input
    request := n.modelClass names.requestType.text
    response := n.modelClass names.returnType.text
    marshaller :=
      n.transformClass (names.inputShape.text ++ "Marshaller")
    unmarshaller :=
      n.transformClass (unmarshallerName names.returnType.text)
  }

/- The classes of all operations, in order. -/
def operations
    (n : Names)
    (s : Service) :
    Except GenerationError (List OperationTypes) :=
  s.operations.values.mapM n.operation

/- The classes of an exception. -/
def exception
    (n : Names)
    (shape : Shape) :
    Except GenerationError ExceptionTypes := do
  let name ← Identifier.require "exception shape" shape.name
  .ok {
    shape
    name
    exception := n.modelClass name.text
    unmarshaller :=
      n.transformClass (unmarshallerName name.text) }

/- The classes of all exceptions, in order. -/
def exceptions
    (n : Names)
    (s : Service) :
    Except GenerationError (List ExceptionTypes) :=
  s.exceptions.mapM n.exception

end Names

end ClientGen.Client
