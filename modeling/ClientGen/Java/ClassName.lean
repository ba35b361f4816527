import ClientGen.Text.Lines

/-
  References to classes and interfaces by their full names.

  Key definitions include:
    * `ClassName`
    * `ClassName.ofQualified`
    * `ClassName.inner`
    * `ClassName.outermost`
    * `ClassName.relative`
    * `ClassName.canonical`
    * `ClassName.compare`

  A class is named by its package, the class at the top of
  its file and the path of nested classes below that one.
-/

namespace ClientGen.Java

open ClientGen.Text

------------------------------------------------------------
-- Class Names
------------------------------------------------------------

/-
  A class in a package, which may be the nameless one, with
  the names of the classes nested in one another on the way
  from the top-level class to this one.
-/
structure ClassName where
  package : String
  topLevel : String
  nested : List String
  deriving DecidableEq, Repr, Inhabited

namespace ClassName

/- A top-level class. -/
def inPackage
    (package simple : String) :
    ClassName :=
  ⟨package, simple, []⟩

/- A class every file sees without an import. -/
def javaLang
    (simple : String) :
    ClassName :=
  inPackage "java.lang" simple

/-
  The top-level class of a name whose last dot separates the
  package from the class.  Without a dot the package is the
  nameless one.
-/
def ofQualified
    (name : String) :
    ClassName :=
  let backwards := name.toList.reverse
  let simple := (backwards.takeWhile (· ≠ '.')).reverse
  match backwards.dropWhile (· ≠ '.') with
  | [] => inPackage "" name
  | _ :: package =>
      inPackage (String.ofList package.reverse)
        (String.ofList simple)

/- The class of that name nested in this one. -/
def inner
    (c : ClassName)
    (simple : String) :
    ClassName :=
  { c with nested := c.nested ++ [simple] }

/- Another top-level class of the same package. -/
def peer
    (c : ClassName)
    (simple : String) :
    ClassName :=
  inPackage c.package simple

/- The class of the file this one is declared in. -/
def outermost
    (c : ClassName) :
    ClassName :=
  { c with nested := [] }

------------------------------------------------------------
-- Spellings
------------------------------------------------------------

/- The simple names from the top-level class down. -/
def simpleNames
    (c : ClassName) :
    List String :=
  c.topLevel :: c.nested

/- The last of the simple names. -/
def simple
    (c : ClassName) :
    String :=
  c.nested.getLastD c.topLevel

/- The name within its package. -/
def relative
    (c : ClassName) :
    String :=
  joinWith "." c.simpleNames

/- The full name. -/
def canonical
    (c : ClassName) :
    String :=
  if c.package = "" then c.relative
  else c.package ++ "." ++ c.relative

------------------------------------------------------------
-- Order
------------------------------------------------------------

/- Lists of names in dictionary order. -/
def compareNames : List String → List String → Ordering
  | [], [] => .eq
  | [], _ :: _ => .lt
  | _ :: _, [] => .gt
  | a :: as, b :: bs =>
      (Ord.compare a b).then (compareNames as bs)

/- Classes in order of package, then of simple names. -/
def compare
    (a b : ClassName) :
    Ordering :=
  (Ord.compare a.package b.package).then
    (compareNames a.simpleNames b.simpleNames)

end ClassName

end ClientGen.Java
