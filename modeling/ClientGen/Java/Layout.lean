import ClientGen.Java.Declaration
import ClientGen.Text.Blank
import ClientGen.Text.Lines

/-
  Declarations written out as parts of code.

  Key definitions include:
    * `javadocLayout`
    * `Annotation.layout`
    * `Parameter.layout`
    * `Field.layout`
    * `Method.layout`
    * `TypeDecl.layout`

  Types stay types in the layout, so one declaration can be
  set down with any spelling of classes.
-/

namespace ClientGen.Java

open ClientGen.Text

------------------------------------------------------------
-- Separated Parts
------------------------------------------------------------

/- Groups of parts with a text between each two. -/
def separated
    (separator : String) :
    List (List Code.Part) → List Code.Part
  | [] => []
  | [group] => group
  | group :: next :: more =>
      group ++
        (.text separator :: separated separator (next :: more))

/- Types with commas between them. -/
def typeList
    (types : List TypeName) :
    List Code.Part :=
  separated ", " (types.map fun t => [.type t])

------------------------------------------------------------
-- Comments
------------------------------------------------------------

/-
  One line of a comment, behind a star that an empty line
  stands next to without a space.
-/
def commentLine
    (line : List Char) :
    String :=
  if line.isEmpty then " *\n"
  else " * " ++ String.ofList line ++ "\n"

/- The lines of a text as the inner lines of a comment. -/
def commentLines
    (text : String) :
    List String :=
  (lines (trimEnd text.toList)).map commentLine

/- The comment that documents a declaration. -/
def javadocLayout : Option String → List Code.Part
  | none => []
  | some text =>
      [.text "/**\n"] ++ (commentLines text).map .text ++
        [.text " */\n"]

------------------------------------------------------------
-- Modifiers and Annotations
------------------------------------------------------------

/- Modifiers, each with the space after it. -/
def modifiersLayout
    (modifiers : List Modifier) :
    List Code.Part :=
  modifiers.map fun m => .text (m.keyword ++ " ")

/- An annotation without the end of its line. -/
def Annotation.layout
    (a : Annotation) :
    List Code.Part :=
  [.text "@", .type (.class a.type)] ++
    a.value.elim [] fun value =>
      [.text "("] ++ value.parts ++ [.text ")"]

/- Annotations on a line each. -/
def annotationsLayout
    (annotations : List Annotation) :
    List Code.Part :=
  annotations.flatMap fun a => a.layout ++ [.text "\n"]

------------------------------------------------------------
-- Type Variables
------------------------------------------------------------

/- A type variable where it is declared, with its bounds. -/
def typeVariableLayout : TypeName → List Code.Part
  | .variable name (bound :: more) =>
      [.text (name ++ " extends ")] ++
        separated " & "
          ((bound :: more).map fun t => [.type t])
  | t => [.type t]

/- Declared type variables between angle brackets. -/
def typeVariablesLayout
    (declared : List TypeName)
    (ending : String) :
    List Code.Part :=
  if declared.isEmpty then []
  else
    [.text "<"] ++
      separated ", " (declared.map typeVariableLayout) ++
      [.text ending]

------------------------------------------------------------
-- Parameters
------------------------------------------------------------

/-
  A parameter.  The variadic one is written with the type of
  its components, if its own type is an array.
-/
def Parameter.layout
    (p : Parameter)
    (isVariadic : Bool) :
    List Code.Part :=
  (if p.isFinal then [.text "final "] else []) ++
    (match p.type, isVariadic with
      | .array component, true =>
          [.type component, .text "..."]
      | t, _ => [.type t]) ++
    [.text " ", .text p.name]

/- Parameters, of which only the last can be variadic. -/
def parametersLayout
    (isVariadic : Bool) :
    List Parameter → List (List Code.Part)
  | [] => []
  | [last] => [last.layout isVariadic]
  | p :: next :: more =>
      p.layout false ::
        parametersLayout isVariadic (next :: more)

------------------------------------------------------------
-- Members
------------------------------------------------------------

/- A field. -/
def Field.layout
    (f : Field) :
    List Code.Part :=
  javadocLayout f.javadoc ++ modifiersLayout f.modifiers ++
    [.type f.type, .text " ", .text f.name] ++
    (f.initializer.elim [] fun value =>
      [.text " = "] ++ value.parts) ++
    [.text ";\n"]

/-
  The name of a method behind the type it returns.  That of
  a constructor is the name of the type `enclosing`.
-/
def Method.nameLayout
    (m : Method)
    (enclosing : String) :
    List Code.Part :=
  match m.kind with
  | .constructor => [.text enclosing]
  | .method name => [.type m.returns, .text " ", .text name]

/- The exceptions a method is declared to throw. -/
def throwsLayout
    (throws : List TypeName) :
    List Code.Part :=
  if throws.isEmpty then []
  else [.text " throws "] ++ typeList throws

/- The body of a method, or the end of one without. -/
def Method.bodyLayout
    (m : Method)
    (inInterface : Bool) :
    List Code.Part :=
  if m.hasBody inInterface then
    [.text " \x7b\n", .indent] ++ m.body.parts ++
      [.unindent, .text "\x7d\n"]
  else [.text ";\n"]

/- A method or constructor of the type `enclosing`. -/
def Method.layout
    (m : Method)
    (enclosing : String)
    (inInterface : Bool) :
    List Code.Part :=
  javadocLayout m.javadoc ++
    annotationsLayout m.annotations ++
    modifiersLayout m.modifiers ++
    typeVariablesLayout m.typeVariables "> " ++
    m.nameLayout enclosing ++
    [.text "("] ++
    separated ", "
      (parametersLayout m.isVariadic m.parameters) ++
    [.text ")"] ++
    throwsLayout m.throws ++
    m.bodyLayout inInterface

------------------------------------------------------------
-- Types
------------------------------------------------------------

/- The word before the interfaces of a type. -/
def TypeKind.interfacesKeyword : TypeKind → String
  | .classType => " implements "
  | .interfaceType => " extends "

/- The members of a type, fields first. -/
def TypeDecl.members
    (d : TypeDecl) :
    List (List Code.Part) :=
  d.fields.map Field.layout ++
    d.methods.map fun m =>
      m.layout d.name (d.kind == .interfaceType)

/- The class a type extends. -/
def superclassLayout
    (superclass : Option TypeName) :
    List Code.Part :=
  superclass.elim [] fun t => [.text " extends ", .type t]

/- The interfaces of a type behind the word for them. -/
def superinterfacesLayout
    (kind : TypeKind)
    (superinterfaces : List TypeName) :
    List Code.Part :=
  if superinterfaces.isEmpty then []
  else [.text kind.interfacesKeyword] ++ typeList superinterfaces

/- A type with an empty line between each two members. -/
def TypeDecl.layout
    (d : TypeDecl) :
    List Code.Part :=
  javadocLayout d.javadoc ++
    annotationsLayout d.annotations ++
    modifiersLayout d.modifiers ++
    [.text (d.kind.keyword ++ " "), .text d.name] ++
    typeVariablesLayout d.typeVariables ">" ++
    superclassLayout d.superclass ++
    superinterfacesLayout d.kind d.superinterfaces ++
    [.text " \x7b\n", .indent] ++
    separated "\n" d.members ++
    [.unindent, .text "\x7d\n"]

end ClientGen.Java
