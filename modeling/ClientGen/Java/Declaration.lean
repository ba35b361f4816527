import ClientGen.Java.CodeBuilder

/-
  Fields, methods and types as Java declares them.

  Key definitions include:
    * `Modifier`
    * `Modifier.canonical`
    * `Annotation`
    * `Parameter`
    * `Field`
    * `Method`
    * `Method.withSteps`
    * `TypeDecl`
    * `TypeDecl.mentions`

  A declaration is plain data.  The classes it mentions are
  all those a reader of the data would find, whether or not
  the place they stand in is written out.
-/

namespace ClientGen.Java

------------------------------------------------------------
-- Modifiers
------------------------------------------------------------

/- The modifiers of declarations. -/
inductive Modifier where
  | publicAccess
  | protectedAccess
  | privateAccess
  | abstract
  | default
  | static
  | final
  | volatile
  | synchronized
  deriving DecidableEq, Repr

namespace Modifier

/- The word for a modifier. -/
def keyword : Modifier → String
  | .publicAccess => "public"
  | .protectedAccess => "protected"
  | .privateAccess => "private"
  | .abstract => "abstract"
  | .default => "default"
  | .static => "static"
  | .final => "final"
  | .volatile => "volatile"
  | .synchronized => "synchronized"

/- All modifiers, in the order in which they are written. -/
def all :
    List Modifier :=
  [.publicAccess, .protectedAccess, .privateAccess,
   .abstract, .default, .static, .final, .volatile,
   .synchronized]

/- The same modifiers, once each and in writing order. -/
def canonical
    (given : List Modifier) :
    List Modifier :=
  all.filter (given.contains ·)

end Modifier

------------------------------------------------------------
-- Annotations and Parameters
------------------------------------------------------------

/- An annotation, perhaps with a value. -/
structure Annotation where
  type : ClassName
  value : Option Code
  deriving DecidableEq, Repr

namespace Annotation

/- An annotation without a value. -/
def marker
    (type : ClassName) :
    Annotation :=
  ⟨type, none⟩

/- The mark of a method that overrides another. -/
def overriding : Annotation :=
  marker (ClassName.javaLang "Override")

/- The mark of a declaration better not used. -/
def deprecated : Annotation :=
  marker (ClassName.javaLang "Deprecated")

/- Every class the annotation mentions. -/
def mentions
    (a : Annotation) :
    List ClassName :=
  a.type :: a.value.elim [] Code.mentions

end Annotation

/- A parameter of a method or constructor. -/
structure Parameter where
  type : TypeName
  name : String
  isFinal : Bool
  deriving DecidableEq, Repr

/- A parameter that may be assigned to. -/
def Parameter.plain
    (type : TypeName)
    (name : String) :
    Parameter :=
  ⟨type, name, false⟩

------------------------------------------------------------
-- Fields
------------------------------------------------------------

/- A field, its modifiers in writing order. -/
structure Field where
  type : TypeName
  name : String
  modifiers : List Modifier
  javadoc : Option String
  initializer : Option Code
  deriving DecidableEq, Repr

namespace Field

/- A field with modifiers only. -/
def plain
    (type : TypeName)
    (name : String)
    (modifiers : List Modifier) :
    Field :=
  ⟨type, name, Modifier.canonical modifiers, none, none⟩

/- Every class the field mentions. -/
def mentions
    (f : Field) :
    List ClassName :=
  f.type.mentions ++ f.initializer.elim [] Code.mentions

end Field

------------------------------------------------------------
-- Methods
------------------------------------------------------------

/- A method of some name, or a constructor. -/
inductive MethodKind where
  | method (name : String)
  | constructor
  deriving DecidableEq, Repr

/- A method or constructor, its modifiers in writing order. -/
structure Method where
  kind : MethodKind
  javadoc : Option String := none
  annotations : List Annotation := []
  modifiers : List Modifier := []
  typeVariables : List TypeName := []
  returns : TypeName := .void
  parameters : List Parameter := []
  isVariadic : Bool := false
  throws : List TypeName := []
  body : Code := Code.empty
  deriving DecidableEq, Repr

namespace Method

/- The name of a method; constructors share one. -/
def name
    (m : Method) :
    String :=
  match m.kind with
  | .method name => name
  | .constructor => "<init>"

/- The method with the body that the steps build. -/
def withSteps
    (m : Method)
    (steps : List Step) :
    Except CodeError Method := do
  let body ← Code.ofSteps steps
  .ok { m with body }

/- Whether this is a constructor. -/
def isConstructor
    (m : Method) :
    Bool :=
  m.kind == .constructor

/- Every class the method mentions. -/
def mentions
    (m : Method) :
    List ClassName :=
  m.annotations.flatMap Annotation.mentions ++
    TypeName.mentionsAll m.typeVariables ++
    m.returns.mentions ++
    m.parameters.flatMap (·.type.mentions) ++
    TypeName.mentionsAll m.throws ++
    m.body.mentions

/-
  Whether the method is written with a body: not if it is
  abstract, and inside an interface only if it is a default
  or a static method.
-/
def hasBody
    (m : Method)
    (inInterface : Bool) :
    Bool :=
  !m.modifiers.contains .abstract &&
    (!inInterface || m.modifiers.contains .default ||
      m.modifiers.contains .static)

end Method

------------------------------------------------------------
-- Types
------------------------------------------------------------

/- The two kinds of declared types. -/
inductive TypeKind where
  | classType
  | interfaceType
  deriving DecidableEq, Repr

/- The word for a kind of type. -/
def TypeKind.keyword : TypeKind → String
  | .classType => "class"
  | .interfaceType => "interface"

/- A top-level type, its modifiers in writing order. -/
structure TypeDecl where
  kind : TypeKind
  name : String
  javadoc : Option String := none
  annotations : List Annotation := []
  modifiers : List Modifier := []
  typeVariables : List TypeName := []
  superclass : Option TypeName := none
  superinterfaces : List TypeName := []
  fields : List Field := []
  methods : List Method := []
  deriving DecidableEq, Repr

namespace TypeDecl

/- The first field of that name. -/
def field?
    (d : TypeDecl)
    (name : String) :
    Option Field :=
  d.fields.find? (·.name == name)

/- The first method of that name. -/
def method?
    (d : TypeDecl)
    (name : String) :
    Option Method :=
  d.methods.find? (·.name == name)

/- The constructors, in order. -/
def constructors
    (d : TypeDecl) :
    List Method :=
  d.methods.filter Method.isConstructor

/- Every class the declaration mentions. -/
def mentions
    (d : TypeDecl) :
    List ClassName :=
  d.annotations.flatMap Annotation.mentions ++
    TypeName.mentionsAll d.typeVariables ++
    d.superclass.elim [] TypeName.mentions ++
    TypeName.mentionsAll d.superinterfaces ++
    d.fields.flatMap Field.mentions ++
    d.methods.flatMap Method.mentions

end TypeDecl

end ClientGen.Java
