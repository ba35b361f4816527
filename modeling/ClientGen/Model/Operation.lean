import ClientGen.Java.Name

/-
  The operations of a service.

  Key definitions include:
    * `Variable`
    * `Operation`
    * `Operation.named`

  An operation made from its name alone has the conventional
  names of everything that belongs to it.
-/

namespace ClientGen.Model

open ClientGen.Java

/- A variable with the simple name of its type. -/
structure Variable where
  name : String
  type : String
  deriving DecidableEq, Repr, Inhabited

/-
  An operation: its name, the method that stands for it, the
  request that method takes, the type it returns, and the
  shapes of what goes in and comes out.
-/
structure Operation where
  name : String
  methodName : String
  input : Variable
  returnType : String
  inputShape : String
  outputShape : Option String
  documentation : Option String
  deprecated : Bool
  deriving DecidableEq, Repr, Inhabited

/- The operation of that name with conventional names. -/
def Operation.named
    (name : String) :
    Operation where
  name
  methodName := uncapitalize name
  input := {
    name := variableName (name ++ "Request")
    type := name ++ "Request" }
  returnType := name ++ "Response"
  inputShape := name ++ "Request"
  outputShape := some (name ++ "Response")
  documentation := none
  deprecated := false

end ClientGen.Model
