import ClientGen.Client.Execution
import ClientGen.Java.Declaration

/-
  The statements of operations that protocols share, written
  in the format language.

  Key definitions include:
    * `Assembly.executionCall`
    * `Assembly.delegatedErrorHandler`

  Whatever is assembled takes its formats and arguments from
  here and from the modules beside this one; a format that
  does not fit its arguments is an error.
-/

namespace ClientGen.Client.Assembly

open ClientGen.Java ClientGen.Model

/-
  The last statement of an operation's method.  The argument
  is what the marshaller is made with.
-/
def executionCall
    (types : OperationTypes)
    (envelope : Envelope)
    (argument : String) :
    Except CodeError Code :=
  let params : TypeName :=
    .generic Sdk.clientExecutionParams
      [.class types.request, envelope.handled types.response]
  Code.ofSteps [
    .add "return $N.execute(new $T()\n"
      [clientHandlerField, params],
    .add "$>$>.withMarshaller(new $T($L))\n"
      [types.marshaller, argument],
    .add ".withResponseHandler($N)\n"
      [responseHandlerVariable],
    .add ".withErrorResponseHandler($N)\n"
      [errorHandlerVariable],
    .add ".withInput($N))$L;\n$<$<"
      [types.input.text, envelope.unwrap]]

/- The statement that asks for a handler of errors. -/
def delegatedErrorHandler
    (error : ClassName) :
    Except CodeError Code :=
  Code.ofFormat "$T $N = $N();\n"
    [handlerOf (.class error), errorHandlerVariable,
      createErrorHandlerMethod]

end ClientGen.Client.Assembly
