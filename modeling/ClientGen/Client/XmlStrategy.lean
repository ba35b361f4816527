import ClientGen.Client.Execution

/-
  Clients of services that answer in XML: they keep a list
  of unmarshallers for exceptions and make every handler on
  the spot.

  Key definitions include:
    * `Xml.field`
    * `Xml.initializer`
    * `Xml.responseHandler`
    * `Xml.errorHandler`
-/

namespace ClientGen.Client.Xml

open ClientGen.Java ClientGen.Model

/- The type of the list of unmarshallers. -/
def unmarshallerList :
    TypeName :=
  .generic Sdk.list [
    .generic Sdk.unmarshaller [
      .class Sdk.amazonServiceException,
      .class Sdk.node]]

/- The field of the list. -/
def field :
    Field :=
  Field.plain unmarshallerList exceptionUnmarshallersField
    [.privateAccess, .final]

/- The statement that adds an exception's unmarshaller. -/
def errorRegistration
    (e : ExceptionTypes) :
    List Code.Part :=
  statement ["unmarshallers.add(new ", e.unmarshaller, "())"]

/- The method that makes the list. -/
def initializer
    (names : Names)
    (exceptions : List ExceptionTypes) :
    Method where
  kind := .method initMethod
  modifiers := [.privateAccess]
  returns := unmarshallerList
  body := Code.ofParts (
    statement [unmarshallerList, " unmarshallers = new ",
      Sdk.arrayList, "<>()"] ++
    exceptions.flatMap errorRegistration ++
    statement ["unmarshallers.add(new ",
      Sdk.standardErrorUnmarshaller, "(",
      names.baseException, ".class))"] ++
    statement ["return unmarshallers"])

/- The statement that makes the handler of a response. -/
def responseHandler
    (types : OperationTypes) :
    List Code.Part :=
  let handler : TypeName :=
    .generic Sdk.staxResponseHandler [.class types.response]
  continued
    [handler, " " ++ responseHandlerVariable ++ " = new ",
      handler, "(\n"]
    ["new ", types.unmarshaller, "());\n"]

/- The statement that makes the handler of an error. -/
def errorHandler :
    List Code.Part :=
  statement [
    Sdk.defaultErrorResponseHandler,
    " " ++ errorHandlerVariable ++ " = new ",
    Sdk.defaultErrorResponseHandler,
    "(" ++ exceptionUnmarshallersField ++ ")"]

end ClientGen.Client.Xml
