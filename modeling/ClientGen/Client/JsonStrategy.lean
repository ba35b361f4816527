import ClientGen.Client.Execution

/-
  Clients of services that speak JSON: with the factory that
  all of them share, or behind a gateway with a factory of
  their own.

  Key definitions include:
    * `JsonSettings`
    * `errorRegistration`
    * `JsonSettings.parts`
    * `Factory`
    * `Factory.field`
    * `Factory.initializer`
    * `Factory.responseHandler`
    * `Factory.helper`
-/

namespace ClientGen.Client

open ClientGen.Java ClientGen.Model

------------------------------------------------------------
-- Settings
------------------------------------------------------------

/- What the factory of a service is told. -/
structure JsonSettings where
  version : String
  supportsCbor : Bool
  supportsIon : Bool
  baseException : ClassName
  contentType : Option String
  exceptions : List ExceptionTypes
  deriving DecidableEq, Repr

/- The setting that makes an exception known by its code. -/
def errorRegistration
    (e : ExceptionTypes) :
    List Code.Part :=
  [".addErrorMetadata(new ", Sdk.jsonErrorShapeMetadata,
    "().withErrorCode(",
    quotedText e.shape.errorCodeOrName,
    ").withModeledClass(", e.exception, ".class))"]

/- The settings that every service has. -/
def JsonSettings.required
    (settings : JsonSettings) :
    List (List Code.Part) :=
  [[".withProtocolVersion(", quotedText settings.version,
      ")"],
    [".withSupportsCbor(" ++ boolText settings.supportsCbor ++
      ")"],
    [".withSupportsIon(" ++ boolText settings.supportsIon ++
      ")"],
    [".withBaseServiceExceptionClass(",
      settings.baseException, ".class)"]]

/- The setting that replaces the type of contents. -/
def contentTypeOverride
    (contentType : String) :
    List Code.Part :=
  [".withContentTypeOverride(", quotedText contentType, ")"]

/- All settings, in order. -/
def JsonSettings.parts
    (settings : JsonSettings) :
    List (List Code.Part) :=
  settings.required ++
    settings.contentType.toList.map contentTypeOverride ++
    settings.exceptions.map errorRegistration

/- The settings on a line each. -/
def JsonSettings.lines
    (settings : JsonSettings) :
    List Code.Part :=
  (Code.join (settings.parts.map Code.ofParts) "\n").parts

------------------------------------------------------------
-- Factories
------------------------------------------------------------

/-
  The factory of a client: its class, the class of errors it
  knows, whether the runtime wraps results, and whether it
  is told the shapes of errors for each handler.
-/
structure Factory where
  type : ClassName
  error : ClassName
  envelope : Envelope
  takesErrorShapes : Bool
  deriving DecidableEq, Repr

namespace Factory

/- The factory that services share. -/
def shared : Factory where
  type := Sdk.sdkJsonProtocolFactory
  error := Sdk.amazonServiceException
  envelope := .wrapped
  takesErrorShapes := false

/- The factory of a service behind a gateway. -/
def ofGateway
    (names : Names) :
    Factory where
  type := names.protocolFactory
  error := Sdk.sdkBaseException
  envelope := .bare
  takesErrorShapes := true

/- The field of the factory. -/
def field
    (f : Factory) :
    Field :=
  Field.plain (.class f.type) protocolFactoryField
    [.privateAccess, .final]

/- The method that makes the factory. -/
def initializer
    (f : Factory)
    (settings : JsonSettings) :
    Method where
  kind := .method initMethod
  modifiers := [.privateAccess]
  returns := .class f.type
  body := Code.ofParts (continued
    ["return new ", f.type, "(new ", Sdk.jsonClientMetadata,
      "()\n"]
    (settings.lines ++ [.text ");\n"]))

/- The statement that makes the handler of a response. -/
def responseHandler
    (f : Factory)
    (s : Service)
    (types : OperationTypes) :
    List Code.Part :=
  let flags := PayloadFlags.ofOperation s types.operation
  continued
    [handlerOf (f.envelope.handled types.response),
      " " ++ responseHandlerVariable ++ " = " ++
        protocolFactoryField ++ ".createResponseHandler(\n"]
    ["new ", Sdk.jsonOperationMetadata,
    "().withPayloadJson(" ++ boolText flags.isJson ++
      ").withHasStreamingSuccessResponse(" ++
      boolText flags.isStreaming ++ "),\n",
    "new ", types.unmarshaller, "());\n"]

/- What is said of the shapes of errors, if anything. -/
def errorShapes
    (f : Factory) :
    List Code.Part :=
  if f.takesErrorShapes then
    [".withErrorShapes(", Sdk.arrays,
      ".asList(errorShapeMetadata))"]
  else []

/- The method that makes handlers of errors. -/
def helper
    (f : Factory) :
    Method where
  kind := .method createErrorHandlerMethod
  modifiers := [.privateAccess]
  returns := handlerOf (.class f.error)
  parameters :=
    if f.takesErrorShapes then
      [Parameter.plain
        (.array (.class Sdk.jsonErrorShapeMetadata))
        "errorShapeMetadata"]
    else []
  isVariadic := f.takesErrorShapes
  body := Code.ofParts (statement (
    [.text ("return " ++ protocolFactoryField ++
        ".createErrorResponseHandler(new "),
      .type (.class Sdk.jsonErrorResponseMetadata),
      .text "()"] ++
    f.errorShapes ++ [.text ")"]))

end Factory

end ClientGen.Client
