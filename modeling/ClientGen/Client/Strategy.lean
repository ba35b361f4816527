import ClientGen.Client.DryRun
import ClientGen.Client.JsonStrategy

/-
  What depends on the protocol in a client: the parts of the
  synchronous client that talk to the runtime.

  Key definitions include:
    * `StrategyKind`
    * `StrategyKind.ofProtocol`
    * `Strategy`
    * `Strategy.resolve`
    * `Strategy.initializer`
    * `Strategy.responseHandler`
    * `Strategy.executionCall`

  A strategy is chosen by a protocol and bound to a service,
  which may name another protocol for itself.
-/

namespace ClientGen.Client

open ClientGen.Java ClientGen.Model

------------------------------------------------------------
-- Kinds
------------------------------------------------------------

/- The ways to talk to the runtime. -/
inductive StrategyKind where
  | json
  | queryXml
  | ec2
  | apiGateway
  deriving DecidableEq, Repr

namespace StrategyKind

/- The kind that serves a protocol. -/
def ofProtocol : Protocol → StrategyKind
  | .json => .json
  | .restJson => .json
  | .cbor => .json
  | .ion => .json
  | .query => .queryXml
  | .restXml => .queryXml
  | .ec2 => .ec2
  | .apiGateway => .apiGateway

/- What a kind is called. -/
def name : StrategyKind → String
  | .json => "json"
  | .queryXml => "query-xml"
  | .ec2 => "ec2"
  | .apiGateway => "api-gateway"

end StrategyKind

------------------------------------------------------------
-- Strategies
------------------------------------------------------------

/- A kind of strategy bound to a service. -/
structure Strategy where
  kind : StrategyKind
  service : Service
  names : Names
  deriving DecidableEq, Repr

namespace Strategy

/- The strategy for a protocol, bound to a service. -/
def resolve
    (protocol : Protocol)
    (s : Service) :
    Except GenerationError Strategy := do
  let names ← Names.ofService s
  .ok ⟨StrategyKind.ofProtocol protocol, s, names⟩

/- The strategy for a protocol given by name. -/
def resolveName
    (name : String)
    (s : Service) :
    Except GenerationError Strategy :=
  match Protocol.ofName? name with
  | some protocol => resolve protocol s
  | none => .error (.unknownProtocol name)

/-
  The protocol the strategy goes by.  Strategies that serve
  several protocols go by the one the service names.
-/
def protocol
    (t : Strategy) :
    Protocol :=
  match t.kind with
  | .json => t.service.protocol
  | .queryXml => t.service.protocol
  | .ec2 => .ec2
  | .apiGateway => .apiGateway

/- The class that executes requests. -/
def handlerClass
    (t : Strategy) :
    ClassName :=
  match t.kind with
  | .apiGateway => Sdk.apiGatewayClientHandler
  | _ => Sdk.sdkClientHandler

/- The factory of a strategy for JSON. -/
def factory?
    (t : Strategy) :
    Option Factory :=
  match t.kind with
  | .json => some Factory.shared
  | .apiGateway => some (Factory.ofGateway t.names)
  | .queryXml => none
  | .ec2 => none

------------------------------------------------------------
-- Members of the Client
------------------------------------------------------------

/- The field that holds what the protocol needs. -/
def field
    (t : Strategy) :
    Field :=
  match t.factory? with
  | some factory => factory.field
  | none => Xml.field

/- The version of the JSON protocol that is announced. -/
def jsonVersion
    (t : Strategy) :
    Except GenerationError String :=
  match t.service.jsonVersion, t.kind with
  | some version, _ => .ok version
  | none, .apiGateway => .ok "1.1"
  | none, _ => .error .noJsonVersion

/- What the factory is told. -/
def settings
    (t : Strategy) :
    Except GenerationError JsonSettings := do
  let version ← t.jsonVersion
  let exceptions ← t.names.exceptions t.service
  .ok {
    version
    supportsCbor :=
      t.kind == .json && t.service.protocol == .cbor
    supportsIon :=
      t.kind == .json && t.service.protocol == .ion
    baseException := t.names.baseException
    contentType := t.service.metadata.contentType
    exceptions }

/- The method that gives the field its value. -/
def initializer
    (t : Strategy) :
    Except GenerationError Method :=
  match t.factory? with
  | some factory => t.settings.map factory.initializer
  | none =>
      (t.names.exceptions t.service).map
        (Xml.initializer t.names)

/- The method that makes handlers of errors, if any. -/
def helper
    (t : Strategy) :
    Option Method :=
  t.factory?.map Factory.helper

/- The methods that only this protocol has. -/
def additional
    (t : Strategy) :
    List Method :=
  match t.kind with
  | .ec2 => [DryRun.method t.names]
  | _ => []

------------------------------------------------------------
-- Statements of an Operation
------------------------------------------------------------

/- The statement that makes the handler of the response. -/
def responseHandler
    (t : Strategy)
    (types : OperationTypes) :
    List Code.Part :=
  match t.factory? with
  | some factory => factory.responseHandler t.service types
  | none => Xml.responseHandler types

/- The statement that makes the handler of an error. -/
def errorHandler
    (t : Strategy) :
    List Code.Part :=
  match t.factory? with
  | some factory => delegatedErrorHandler factory.error
  | none => Xml.errorHandler

/- The statement that carries out the operation. -/
def executionCall
    (t : Strategy)
    (types : OperationTypes) :
    List Code.Part :=
  match t.factory? with
  | some factory =>
      Client.executionCall types factory.envelope
        protocolFactoryField
  | none => Client.executionCall types .wrapped ""

end Strategy

end ClientGen.Client
