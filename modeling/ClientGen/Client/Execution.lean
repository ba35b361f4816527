import ClientGen.Client.Names
import ClientGen.Client.Sdk
import ClientGen.Java.Body
import ClientGen.Java.Declaration

/-
  What the methods of all protocols have in common: the
  names they use inside, and the call that carries out an
  operation.

  Key definitions include:
    * `Envelope`
    * `Envelope.handled`
    * `executionCall`
    * `delegatedErrorHandler`
    * `PayloadFlags`
-/

namespace ClientGen.Client

open ClientGen.Java ClientGen.Model

------------------------------------------------------------
-- Names Inside Clients
------------------------------------------------------------

/- The field that makes handlers. -/
def protocolFactoryField : String :=
  "protocolFactory"

/- The field that executes requests. -/
def clientHandlerField : String :=
  "clientHandler"

/- The field that keeps the unmarshallers of exceptions. -/
def exceptionUnmarshallersField : String :=
  "exceptionUnmarshallers"

/- The method that gives the protocol's field its value. -/
def initMethod : String :=
  "init"

/- The method that makes handlers of errors. -/
def createErrorHandlerMethod : String :=
  "createErrorResponseHandler"

/- The variable with the handler of a response. -/
def responseHandlerVariable : String :=
  "responseHandler"

/- The variable with the handler of an error. -/
def errorHandlerVariable : String :=
  "errorResponseHandler"

/- The parameters of a client, as a field and an argument. -/
def clientParamsName : String :=
  "clientParams"

/- The service's own configuration, likewise. -/
def advancedConfigurationName : String :=
  "advancedConfiguration"

------------------------------------------------------------
-- Envelopes
------------------------------------------------------------

/-
  Whether the runtime wraps what it returns, so that a call
  has to take out the result.
-/
inductive Envelope where
  | wrapped
  | bare
  deriving DecidableEq, Repr

/- The type that the handler of a response makes. -/
def Envelope.handled
    (response : ClassName) :
    Envelope → TypeName
  | .wrapped =>
      .generic Sdk.amazonWebServiceResponse [.class response]
  | .bare => .class response

/- What is written to take the result out. -/
def Envelope.unwrap : Envelope → String
  | .wrapped => ".getResult()"
  | .bare => ""

------------------------------------------------------------
-- Execution
------------------------------------------------------------

/-
  The last statement of an operation's method.  The argument
  is what the marshaller is made with.
-/
def executionCall
    (types : OperationTypes)
    (envelope : Envelope)
    (argument : String) :
    List Code.Part :=
  let params : TypeName :=
    .generic Sdk.clientExecutionParams
      [.class types.request, envelope.handled types.response]
  continued
    ["return " ++ clientHandlerField ++ ".execute(new ",
      params, "()\n"]
    [
    ".withMarshaller(new ", types.marshaller,
    "(" ++ argument ++ "))\n",
    ".withResponseHandler(" ++ responseHandlerVariable ++
      ")\n",
    ".withErrorResponseHandler(" ++ errorHandlerVariable ++
      ")\n",
    ".withInput(" ++ types.input.text ++ "))" ++
      envelope.unwrap ++ ";\n"]

/- A handler of responses that makes one type. -/
def handlerOf
    (made : TypeName) :
    TypeName :=
  .generic Sdk.httpResponseHandler [made]

/- The statement that asks for a handler of errors. -/
def delegatedErrorHandler
    (error : ClassName) :
    List Code.Part :=
  statement [
    handlerOf (.class error),
    " " ++ errorHandlerVariable ++ " = " ++
      createErrorHandlerMethod ++ "()"]

------------------------------------------------------------
-- Payloads
------------------------------------------------------------

/- Whether the payload is JSON, and the response a stream. -/
structure PayloadFlags where
  isJson : Bool
  isStreaming : Bool
  deriving DecidableEq, Repr

/-
  The flags of an operation.  Where a blob is the whole of a
  request or response, the payload is not JSON.
-/
def PayloadFlags.ofOperation
    (s : Service)
    (o : Operation) :
    PayloadFlags where
  isJson :=
    !((s.inputShape? o).toList ++ (s.outputShape? o).toList).any
      (·.hasBlobMemberAsPayload)
  isStreaming :=
    (s.outputShape? o).any (·.hasStreamingMember)

/- A truth value as it is written in code. -/
def boolText : Bool → String
  | true => "true"
  | false => "false"

end ClientGen.Client
