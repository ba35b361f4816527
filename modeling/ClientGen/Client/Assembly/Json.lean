import ClientGen.Client.Assembly.Execution
import ClientGen.Client.JsonStrategy

/-
  The members of clients that speak JSON, written in the
  format language.

  Key definitions include:
    * `Assembly.metadataSettings`
    * `Assembly.Factory.initializer`
    * `Assembly.Factory.responseHandler`
    * `Assembly.Factory.helper`
-/

namespace ClientGen.Client.Assembly

open ClientGen.Java ClientGen.Model

------------------------------------------------------------
-- Settings
------------------------------------------------------------

/- The setting that makes an exception known by its code. -/
def errorRegistration
    (e : ExceptionTypes) :
    Except CodeError Code :=
  Code.ofFormat
    (".addErrorMetadata(new $T().withErrorCode($S)" ++
      ".withModeledClass($T.class))")
    [Sdk.jsonErrorShapeMetadata, e.shape.errorCodeOrName,
      e.exception]

/- The setting that replaces the type of contents, if any. -/
def contentTypeOverride
    (s : Service) :
    Except CodeError (Option Code) :=
  s.metadata.contentType.mapM fun (contentType : String) =>
    Code.ofFormat ".withContentTypeOverride($S)"
      [contentType]

/-
  All settings of a service on a line each: those that every
  service has, the type of contents, and one for each of the
  exceptions, whose names are checked on the way.
-/
def metadataSettings
    (s : Service)
    (names : Names)
    (version : String)
    (supportsCbor supportsIon : Bool) :
    Except GenerationError Code := do
  let version ←
    Code.ofFormat ".withProtocolVersion($S)" [version]
  let cbor ←
    Code.ofFormat ".withSupportsCbor($L)"
      [boolText supportsCbor]
  let ion ←
    Code.ofFormat ".withSupportsIon($L)"
      [boolText supportsIon]
  let base ←
    Code.ofFormat ".withBaseServiceExceptionClass($T.class)"
      [names.baseException]
  let contentType ← contentTypeOverride s
  let registrations ← s.exceptions.mapM fun shape => do
    let e ← names.exception shape
    errorRegistration e
  .ok (Code.join
    ([version, cbor, ion, base] ++ contentType.toList ++
      registrations) "\n")

------------------------------------------------------------
-- Factories
------------------------------------------------------------

namespace Factory

/- The method that makes the factory. -/
def initializer
    (f : Client.Factory)
    (settings : Code) :
    Except CodeError Method :=
  Method.withSteps {
      kind := .method initMethod
      modifiers := [.privateAccess]
      returns := .class f.type }
    [.add "return new $T(new $T()\n$>$>"
        [f.type, Sdk.jsonClientMetadata],
      .add "$L);\n$<$<" [settings]]

/- The statement that makes the handler of a response. -/
def responseHandler
    (f : Client.Factory)
    (s : Service)
    (types : OperationTypes) :
    Except CodeError Code :=
  let flags := PayloadFlags.ofOperation s types.operation
  Code.ofSteps [
    .add "$T $N = $N.createResponseHandler(\n$>$>"
      [handlerOf (f.envelope.handled types.response),
        responseHandlerVariable, protocolFactoryField],
    .add
      ("new $T().withPayloadJson($L)" ++
        ".withHasStreamingSuccessResponse($L),\n")
      [Sdk.jsonOperationMetadata, boolText flags.isJson,
        boolText flags.isStreaming],
    .add "new $T());\n$<$<" [types.unmarshaller]]

/- The statement of the helper, with shapes or without. -/
def helperStep
    (f : Client.Factory) :
    Step :=
  if f.takesErrorShapes then
    .statement
      ("return $N.createErrorResponseHandler(new $T()" ++
        ".withErrorShapes($T.asList(errorShapeMetadata)))")
      [protocolFactoryField, Sdk.jsonErrorResponseMetadata,
        Sdk.arrays]
  else
    .statement
      "return $N.createErrorResponseHandler(new $T())"
      [protocolFactoryField, Sdk.jsonErrorResponseMetadata]

/- The method that makes handlers of errors. -/
def helper
    (f : Client.Factory) :
    Except CodeError Method :=
  Method.withSteps {
      kind := .method createErrorHandlerMethod
      modifiers := [.privateAccess]
      returns := handlerOf (.class f.error)
      parameters :=
        if f.takesErrorShapes then
          [Parameter.plain
            (.array (.class Sdk.jsonErrorShapeMetadata))
            "errorShapeMetadata"]
        else []
      isVariadic := f.takesErrorShapes }
    [helperStep f]

end Factory

end ClientGen.Client.Assembly
