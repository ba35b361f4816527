import ClientGen.Json.Record
import ClientGen.Model.Operation
import ClientGen.Model.OrderedMap
import ClientGen.Model.Protocol
import ClientGen.Model.Shape
import ClientGen.Text.Blank

/-
  The model of a service: all that its clients are generated
  from.

  Key definitions include:
    * `Metadata`
    * `Customization`
    * `Service`
    * `ModelError`
    * `Service.check`
    * `Service.assemble`
    * `Service.exceptions`
    * `Service.jsonVersion`
-/

namespace ClientGen.Model

open ClientGen.Json ClientGen.Text

------------------------------------------------------------
-- Metadata
------------------------------------------------------------

/- What is known of a service as a whole. -/
structure Metadata where
  serviceName : String
  clientPackageName : String
  endpointPrefix : String
  signingName : Option String
  protocol : Protocol
  jsonVersion : Option String
  contentType : Option String
  baseExceptionName : Option String
  signatureVersion : SignatureVersion
  apiVersion : Option String
  deriving DecidableEq, Repr, Inhabited

namespace Metadata

/-
  Metadata with all that is optional left out.  Endpoints
  are named after the service, in lower case.
-/
def named
    (serviceName clientPackageName : String)
    (protocol : Protocol) :
    Metadata where
  serviceName
  clientPackageName
  endpointPrefix := lowercase serviceName
  signingName := none
  protocol
  jsonVersion := none
  contentType := none
  baseExceptionName := none
  signatureVersion := .v4
  apiVersion := none

/- The name that requests are signed with. -/
def effectiveSigningName
    (m : Metadata) :
    String :=
  m.signingName.getD m.endpointPrefix

/- The class that all exceptions of the service extend. -/
def effectiveBaseException
    (m : Metadata) :
    String :=
  m.baseExceptionName.getD (m.serviceName ++ "Exception")

/- A package below that of the clients. -/
def subpackage
    (m : Metadata)
    (name : String) :
    String :=
  m.clientPackageName ++ "." ++ name

/- The package of the model classes. -/
def modelPackage
    (m : Metadata) :
    String :=
  m.subpackage "model"

/- The package of marshallers and unmarshallers. -/
def transformPackage
    (m : Metadata) :
    String :=
  m.subpackage "transform"

/- The package of waiters. -/
def waitersPackage
    (m : Metadata) :
    String :=
  m.subpackage "waiters"

/- The package of presigners. -/
def presignPackage
    (m : Metadata) :
    String :=
  m.subpackage "presign"

end Metadata

------------------------------------------------------------
-- Customization
------------------------------------------------------------

/- What is special about the clients of a service. -/
structure Customization where
  clientConfigClass : Option String
  presignersClass : Option String
  calculateCrc32FromCompressedData : Bool
  httpConfig : Option String
  deriving DecidableEq, Repr, Inhabited

/- Nothing is special. -/
def Customization.none : Customization :=
  ⟨.none, .none, false, .none⟩

------------------------------------------------------------
-- Services
------------------------------------------------------------

/- The model of a service. -/
structure Service where
  metadata : Metadata
  customization : Customization
  operations : OrderedMap Operation
  shapes : OrderedMap Shape
  hasWaiters : Bool
  deriving DecidableEq, Repr, Inhabited

/- Why there is no model. -/
inductive ModelError where
  | document (e : ReadError)
  | unknownProtocol (name : String)
  | missing (what : String)
  deriving DecidableEq, Repr

/- What is said of a protocol that does not exist. -/
def unknownProtocolMessage
    (name : String) :
    String :=
  "Unknown protocol: " ++ name

/- The wording of an error; malformed text has none. -/
def ModelError.message : ModelError → Option String
  | .document e => e.message
  | .unknownProtocol name =>
      some (unknownProtocolMessage name)
  | .missing what =>
      some ("Missing required model data: " ++ what)

namespace Service

/- A service and its package have to have names. -/
def check
    (s : Service) :
    Except ModelError Service :=
  if trimmed s.metadata.serviceName = "" then
    .error (.missing "metadata.serviceName")
  else if trimmed s.metadata.clientPackageName = "" then
    .error (.missing "metadata.clientPackageName")
  else .ok s

/-
  The model made of its pieces, with operations and shapes
  put in under their own names.
-/
def assemble
    (metadata : Option Metadata)
    (customization : Customization)
    (operations : List Operation)
    (shapes : List Shape)
    (hasWaiters : Bool) :
    Except ModelError Service :=
  match metadata with
  | none => .error (.missing "metadata")
  | some metadata =>
      check {
        metadata
        customization
        operations :=
          OrderedMap.ofList (operations.map fun o => (o.name, o))
        shapes :=
          OrderedMap.ofList (shapes.map fun s => (s.name, s))
        hasWaiters }

------------------------------------------------------------
-- Questions
------------------------------------------------------------

/- The protocol of the service. -/
def protocol
    (s : Service) :
    Protocol :=
  s.metadata.protocol

/- The shapes that are exceptions, in order. -/
def exceptions
    (s : Service) :
    List Shape :=
  s.shapes.values.filter Shape.isException

/- The shape of what goes into an operation. -/
def inputShape?
    (s : Service)
    (o : Operation) :
    Option Shape :=
  s.shapes.get? o.inputShape

/- The shape of what comes out of an operation. -/
def outputShape?
    (s : Service)
    (o : Operation) :
    Option Shape :=
  o.outputShape.bind s.shapes.get?

/-
  The version of the JSON protocol: the one that is given,
  and 1.1 where the protocol belongs to the JSON family.
-/
def jsonVersion
    (s : Service) :
    Option String :=
  s.metadata.jsonVersion.or
    (if s.protocol.isJsonFamily then some "1.1" else none)

end Service

end ClientGen.Model
