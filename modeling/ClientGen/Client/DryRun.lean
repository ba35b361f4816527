import ClientGen.Client.XmlStrategy

/-
  Dry runs: requests that are checked by the service and not
  carried out.

  Key definitions include:
    * `DryRun.Signal`
    * `DryRun.signals`
    * `DryRun.Response`
    * `DryRun.Outcome`
    * `DryRun.classify`
    * `DryRun.Statement`
    * `DryRun.program`
    * `DryRun.Statement.run`
    * `DryRun.method`

  A dry run never succeeds as other requests do.  Two errors
  tell what would have happened, and everything else is an
  error of the client.  The generated method is a small
  program, which can be written out as well as run.
-/

namespace ClientGen.Client.DryRun

open ClientGen.Java ClientGen.Model

------------------------------------------------------------
-- Signals
------------------------------------------------------------

/-
  An error that tells how a dry run has ended, and whether
  the request would have succeeded.
-/
structure Signal where
  errorCode : String
  statusCode : Nat
  wouldSucceed : Bool
  deriving DecidableEq, Repr

/- The request would have succeeded. -/
def permitted : Signal :=
  ⟨"DryRunOperation", 412, true⟩

/- The caller may not make the request. -/
def forbidden : Signal :=
  ⟨"UnauthorizedOperation", 403, false⟩

/- The signals, in the order in which they are tested. -/
def signals :
    List Signal :=
  [permitted, forbidden]

/- What is said of any other answer. -/
def unrecognized :
    String :=
  "Unrecognized service response for the dry-run request."

------------------------------------------------------------
-- Responses and Outcomes
------------------------------------------------------------

/- An error as the service reports it. -/
structure ServiceError where
  errorCode : String
  statusCode : Nat
  message : String
  deriving DecidableEq, Repr

/- What the service does with the request. -/
inductive Response where
  | completed
  | failed (e : ServiceError)
  deriving DecidableEq, Repr

/- What the caller of the method gets. -/
inductive Outcome where
  | result (wouldSucceed : Bool) (message : String)
  | clientError (message : String) (hasCause : Bool)
  deriving DecidableEq, Repr

/- Whether an error is the signal. -/
def Signal.matches
    (signal : Signal)
    (e : ServiceError) :
    Bool :=
  e.errorCode == signal.errorCode &&
    e.statusCode == signal.statusCode

/- What a response means. -/
def classify : Response → Outcome
  | .completed => .clientError unrecognized false
  | .failed e =>
      match signals.find? (·.matches e) with
      | some signal => .result signal.wouldSucceed e.message
      | none => .clientError unrecognized true

------------------------------------------------------------
-- Programs
------------------------------------------------------------

/-
  The statements of the method once the request has been
  prepared: execute it; throw an error of the client, with
  or without the service's error as its cause; return a
  result; test for signals in turn; and try statements, with
  others for an error of the service.
-/
inductive Statement where
  | execute
  | throwClientError (message : String) (hasCause : Bool)
  | returnResult (wouldSucceed : Bool)
  | testSignals (tests : List (Signal × Statement))
  | tryCatch
      (body handler : List Statement)
  deriving Repr

/- The program of the method. -/
def program :
    Statement :=
  .tryCatch
    [.execute, .throwClientError unrecognized false]
    [.testSignals
      (signals.map fun signal =>
        (signal, .returnResult signal.wouldSucceed)),
      .throwClientError unrecognized true]

/-
  How a statement ends: it goes on to the next, or ends the
  method, or the service's error is thrown.
-/
inductive Completion where
  | next
  | ended (outcome : Outcome)
  | thrown (e : ServiceError)
  deriving DecidableEq, Repr

mutual

/-
  Run a statement.  The error at hand is the one that was
  caught; only its message can be in a result.
-/
def Statement.run
    (response : Response)
    (caught : Option ServiceError) :
    Statement → Completion
  | .execute =>
      match response with
      | .completed => .next
      | .failed e => .thrown e
  | .throwClientError message hasCause =>
      .ended (.clientError message hasCause)
  | .returnResult wouldSucceed =>
      .ended (.result wouldSucceed
        (caught.elim "" ServiceError.message))
  | .testSignals tests => runTests response caught tests
  | .tryCatch body handler =>
      match runAll response caught body with
      | .thrown e => runAll response (some e) handler
      | completion => completion

/- Run statements until one of them does not go on. -/
def runAll
    (response : Response)
    (caught : Option ServiceError) :
    List Statement → Completion
  | [] => .next
  | first :: rest =>
      match first.run response caught with
      | .next => runAll response caught rest
      | completion => completion

/- Run the statement of the first signal that matches. -/
def runTests
    (response : Response)
    (caught : Option ServiceError) :
    List (Signal × Statement) → Completion
  | [] => .next
  | (signal, reaction) :: rest =>
      if caught.any signal.matches then
        reaction.run response caught
      else runTests response caught rest

end

------------------------------------------------------------
-- Writing
------------------------------------------------------------

/- The type of the result, and the type variable in it. -/
def resultType
    (names : Names) :
    TypeName :=
  .generic (names.modelClass "DryRunResult")
    [.variable "X" []]

/- The type of the request that is sent. -/
def sentRequest :
    TypeName :=
  .generic Sdk.request [.variable "X" []]

/- The class without values. -/
def voidClass :
    ClassName :=
  ClassName.javaLang "Void"

/- The call that sends the request. -/
def executionParts :
    List Code.Part :=
  let params : TypeName :=
    .generic Sdk.clientExecutionParams [
      sentRequest,
      .generic Sdk.amazonWebServiceResponse
        [.class voidClass]]
  continued
    [clientHandlerField ++ ".execute(new ", params, "()\n"]
    [".withMarshaller(input -> input)\n",
    ".withResponseHandler(" ++ responseHandlerVariable ++
      ")\n",
    ".withErrorResponseHandler(" ++ errorHandlerVariable ++
      ")\n",
    ".withInput(dryRunRequest));\n"]

/- The test for a signal. -/
def Signal.test
    (signal : Signal) :
    List Code.Part :=
  ["if (ase.getErrorCode().equals(",
    quotedText signal.errorCode,
    ") && ase.getStatusCode() == " ++
      toString signal.statusCode ++ ")"]

mutual

/- A statement as it is written. -/
def Statement.parts
    (names : Names) :
    Statement → List Code.Part
  | .execute => executionParts
  | .throwClientError message hasCause =>
      statement ["throw new ", Sdk.amazonClientException, "(",
        quotedText message,
        if hasCause then ", ase)" else ")"]
  | .returnResult wouldSucceed =>
      statement ["return new ", resultType names,
        "(" ++ boolText wouldSucceed ++
          ", request, ase.getMessage(), ase)"]
  | .testSignals tests => testParts names tests
  | .tryCatch body handler =>
      followed ["try"] (allParts names body)
        ["catch (", Sdk.amazonServiceException, " ase)"]
        (allParts names handler)

/- Statements as they are written one after the other. -/
def allParts
    (names : Names) :
    List Statement → List Code.Part
  | [] => []
  | first :: rest =>
      first.parts names ++ allParts names rest

/- Tests as they are written, each on failure of the last. -/
def testParts
    (names : Names) :
    List (Signal × Statement) → List Code.Part
  | [] => []
  | [(signal, reaction)] =>
      block signal.test (reaction.parts names)
  | (signal, reaction) :: next :: more =>
      signal.test ++ [.text " \x7b\n", .indent] ++
        reaction.parts names ++
        [.unindent, .text "\x7d else "] ++
        testParts names (next :: more)

end

/- The statements that prepare the request. -/
def preparation :
    List Code.Part :=
  let handler : TypeName :=
    .generic Sdk.staxResponseHandler [.class voidClass]
  let unmarshaller : TypeName :=
    .generic Sdk.voidStaxUnmarshaller [.class voidClass]
  statement [sentRequest,
    " dryRunRequest = request.getDryRunRequest()"] ++
  statement [handler,
    " " ++ responseHandlerVariable ++ " = new ", handler,
    "(new ", unmarshaller, "())"] ++
  Xml.errorHandler

/- The method that makes dry runs. -/
def method
    (names : Names) :
    Method where
  kind := .method "dryRun"
  modifiers := [.publicAccess]
  typeVariables :=
    [.variable "X" [.class Sdk.amazonWebServiceRequest]]
  returns := resultType names
  parameters :=
    [Parameter.plain
      (.generic (names.modelClass "DryRunSupportedRequest")
        [.variable "X" []])
      "request"]
  throws :=
    [.class Sdk.amazonServiceException,
      .class Sdk.amazonClientException]
  body := Code.ofParts (preparation ++ program.parts names)

end ClientGen.Client.DryRun
