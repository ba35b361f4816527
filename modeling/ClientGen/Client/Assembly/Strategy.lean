import ClientGen.Client.Assembly.Json
import ClientGen.Client.Assembly.Xml
import ClientGen.Client.Strategy

/-
  What depends on the protocol in a client, written in the
  format language.

  Key definitions include:
    * `Assembly.initializer`
    * `Assembly.helper`
    * `Assembly.additional`
    * `Assembly.responseHandler`
    * `Assembly.errorHandler`
    * `Assembly.executionCall`

  A strategy is asked with the operation itself and checks
  the names that it writes.
-/

namespace ClientGen.Client.Assembly.Strategy

open ClientGen.Java ClientGen.Model

------------------------------------------------------------
-- Members of the Client
------------------------------------------------------------

/- The settings of the factory of a service. -/
def settings
    (t : Client.Strategy) :
    Except GenerationError Code := do
  let version ← t.jsonVersion
  metadataSettings t.service t.names version
    (t.kind == .json && t.service.protocol == .cbor)
    (t.kind == .json && t.service.protocol == .ion)

/- The method that gives the field its value. -/
def initializer
    (t : Client.Strategy) :
    Except GenerationError Method := do
  match t.factory? with
  | some factory =>
      let settings ← settings t
      Factory.initializer factory settings
  | none => Xml.initializer t.service t.names

/- The method that makes handlers of errors, if any. -/
def helper
    (t : Client.Strategy) :
    Except CodeError (Option Method) :=
  t.factory?.mapM Factory.helper

/- The methods that only this protocol has. -/
def additional
    (t : Client.Strategy) :
    Except CodeError (List Method) :=
  match t.kind with
  | .ec2 => do
      let dryRun ← DryRun.method t.names
      .ok [dryRun]
  | _ => .ok []

------------------------------------------------------------
-- Statements of an Operation
------------------------------------------------------------

/- The statement that makes the handler of the response. -/
def responseHandler
    (t : Client.Strategy)
    (o : Operation) :
    Except GenerationError Code := do
  let types ← t.names.operation o
  match t.factory? with
  | some factory =>
      Factory.responseHandler factory t.service types
  | none => Xml.responseHandler types

/- The statement that makes the handler of an error. -/
def errorHandler
    (t : Client.Strategy) :
    Except CodeError Code :=
  match t.factory? with
  | some factory => delegatedErrorHandler factory.error
  | none => Xml.errorHandler

/- The statement that carries out the operation. -/
def executionCall
    (t : Client.Strategy)
    (o : Operation) :
    Except GenerationError Code := do
  let types ← t.names.operation o
  match t.factory? with
  | some factory =>
      Assembly.executionCall types factory.envelope
        protocolFactoryField
  | none => Assembly.executionCall types .wrapped ""

end ClientGen.Client.Assembly.Strategy
