/-
  The shapes of the data that services exchange.

  Key definitions include:
    * `ShapeType`
    * `Shape`
    * `Shape.isException`
    * `Shape.errorCodeOrName`
-/

namespace ClientGen.Model

/- What a shape is for. -/
inductive ShapeType where
  | request
  | response
  | model
  | exception
  | enum
  deriving DecidableEq, Repr, Inhabited

/- The name of a shape type in documents. -/
def ShapeType.name : ShapeType → String
  | .request => "Request"
  | .response => "Response"
  | .model => "Model"
  | .exception => "Exception"
  | .enum => "Enum"

/- The shape types by name. -/
def ShapeType.options :
    List (String × ShapeType) :=
  [("Request", .request), ("Response", .response),
   ("Model", .model), ("Exception", .exception),
   ("Enum", .enum)]

/- A shape, named as its class. -/
structure Shape where
  name : String
  type : ShapeType
  errorCode : Option String
  hasStreamingMember : Bool
  hasBlobMemberAsPayload : Bool
  documentation : Option String
  deriving DecidableEq, Repr, Inhabited

namespace Shape

/- A shape of which nothing but its type is known. -/
def named
    (name : String)
    (type : ShapeType) :
    Shape :=
  ⟨name, type, none, false, false, none⟩

/- Whether the shape is an error of the service. -/
def isException
    (s : Shape) :
    Bool :=
  s.type == .exception

/- The code by which the error goes over the wire. -/
def errorCodeOrName
    (s : Shape) :
    String :=
  s.errorCode.getD s.name

end Shape

end ClientGen.Model
