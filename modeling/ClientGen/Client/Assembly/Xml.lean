import ClientGen.Client.Assembly.Execution
import ClientGen.Client.DryRun
import ClientGen.Client.XmlStrategy

/-
  The members of clients that are answered in XML, written
  in the format language.

  Key definitions include:
    * `Assembly.Xml.initializer`
    * `Assembly.Xml.responseHandler`
    * `Assembly.Xml.errorHandler`
    * `Assembly.DryRun.method`
-/

namespace ClientGen.Client.Assembly

open ClientGen.Java ClientGen.Model

------------------------------------------------------------
-- Unmarshallers
------------------------------------------------------------

namespace Xml

/- The step that adds an exception's unmarshaller. -/
def errorRegistration
    (e : ExceptionTypes) :
    Step :=
  .statement "unmarshallers.add(new $T())" [e.unmarshaller]

/- The steps that make the list of unmarshallers. -/
def registration
    (names : Names)
    (exceptions : List ExceptionTypes) :
    List Step :=
  [.statement "$T unmarshallers = new $T<>()"
      [Client.Xml.unmarshallerList, Sdk.arrayList]] ++
    exceptions.map errorRegistration ++
    [.statement "unmarshallers.add(new $T($T.class))"
        [Sdk.standardErrorUnmarshaller,
          names.baseException],
      .statement "return unmarshallers" []]

/-
  The method that makes the list of unmarshallers; the names
  of the exceptions are checked on the way.
-/
def initializer
    (s : Service)
    (names : Names) :
    Except GenerationError Method := do
  let exceptions ← names.exceptions s
  Method.withSteps {
      kind := .method initMethod
      modifiers := [.privateAccess]
      returns := Client.Xml.unmarshallerList }
    (registration names exceptions)

/- The statement that makes the handler of a response. -/
def responseHandler
    (types : OperationTypes) :
    Except CodeError Code :=
  let handler : TypeName :=
    .generic Sdk.staxResponseHandler [.class types.response]
  Code.ofSteps [
    .add "$T $N = new $T(\n$>$>"
      [handler, responseHandlerVariable, handler],
    .add "new $T());\n$<$<" [types.unmarshaller]]

/- The statement that makes the handler of an error. -/
def errorHandler :
    Except CodeError Code :=
  Code.ofFormat "$T $N = new $T($N);\n"
    [Sdk.defaultErrorResponseHandler, errorHandlerVariable,
      Sdk.defaultErrorResponseHandler,
      exceptionUnmarshallersField]

end Xml

------------------------------------------------------------
-- Dry Runs
------------------------------------------------------------

namespace DryRun

open Client.DryRun

/- The format of the test for a signal. -/
def condition : String :=
  "ase.getErrorCode().equals($S) && ase.getStatusCode() == $L"

/- What is tested, and the result if the test holds. -/
def signalSteps
    (names : Names)
    (isFirst : Bool)
    (signal : Signal) :
    List Step :=
  let arguments : List Argument :=
    [signal.errorCode, toString signal.statusCode]
  [if isFirst then
      .beginBlock ("if (" ++ condition ++ ")") arguments
    else
      .nextBlock ("else if (" ++ condition ++ ")") arguments,
    .statement
      "return new $T($L, request, ase.getMessage(), ase)"
      [resultType names, boolText signal.wouldSucceed]]

/- The tests for all signals, one on failure of another. -/
def testSteps
    (names : Names) :
    List Signal → List Step
  | [] => []
  | first :: others =>
      signalSteps names true first ++
        others.flatMap (signalSteps names false)

/- The steps before the request is sent. -/
def preparation
    (errorHandler : Code) :
    List Step :=
  let handler : TypeName :=
    .generic Sdk.staxResponseHandler [.class voidClass]
  let unmarshaller : TypeName :=
    .generic Sdk.voidStaxUnmarshaller [.class voidClass]
  [.statement
      "$T dryRunRequest = request.getDryRunRequest()"
      [sentRequest],
    .statement "$T $N = new $T(new $T())"
      [handler, responseHandlerVariable, handler,
        unmarshaller],
    .code errorHandler]

/- The steps that send the request. -/
def execution :
    List Step :=
  let params : TypeName :=
    .generic Sdk.clientExecutionParams [
      sentRequest,
      .generic Sdk.amazonWebServiceResponse
        [.class voidClass]]
  [.add "$N.execute(new $T()\n" [clientHandlerField, params],
    .add "$>$>.withMarshaller(input -> input)\n" [],
    .add ".withResponseHandler($N)\n"
      [responseHandlerVariable],
    .add ".withErrorResponseHandler($N)\n"
      [errorHandlerVariable],
    .add ".withInput(dryRunRequest));\n$<$<" []]

/- All steps of the method. -/
def steps
    (names : Names)
    (errorHandler : Code) :
    List Step :=
  preparation errorHandler ++
    [.beginBlock "try" []] ++ execution ++
    [.statement "throw new $T($S)"
        [Sdk.amazonClientException, unrecognized],
      .nextBlock "catch ($T ase)"
        [Sdk.amazonServiceException]] ++
    testSteps names signals ++
    [.endBlock,
      .statement "throw new $T($S, ase)"
        [Sdk.amazonClientException, unrecognized],
      .endBlock]

/- The method that makes dry runs. -/
def method
    (names : Names) :
    Except CodeError Method := do
  let errorHandler ← Xml.errorHandler
  Method.withSteps {
      kind := .method "dryRun"
      modifiers := [.publicAccess]
      typeVariables :=
        [.variable "X" [.class Sdk.amazonWebServiceRequest]]
      returns := resultType names
      parameters :=
        [Parameter.plain
          (.generic
            (names.modelClass "DryRunSupportedRequest")
            [.variable "X" []])
          "request"]
      throws :=
        [.class Sdk.amazonServiceException,
          .class Sdk.amazonClientException] }
    (steps names errorHandler)

end DryRun

end ClientGen.Client.Assembly
