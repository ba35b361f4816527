import ClientGen.Java.ClassName

/-
  The types that declarations and code refer to.

  Key definitions include:
    * `Primitive`
    * `TypeName`
    * `TypeName.rawClass`
    * `TypeName.same`
    * `TypeName.mentions`
    * `TypeName.spell`

  How a class is spelled depends on the file, so spelling a
  type takes the spelling of classes as an argument.
-/

namespace ClientGen.Java

open ClientGen.Text

------------------------------------------------------------
-- Types
------------------------------------------------------------

/- A type that is not one of objects, by the word for it. -/
structure Primitive where
  keyword : String
  deriving DecidableEq, Repr

namespace Primitive

/- The type of truth values. -/
def boolean : Primitive :=
  ⟨"boolean"⟩

/- Types of numbers, of two sizes. -/
def int : Primitive :=
  ⟨"int"⟩

def long : Primitive :=
  ⟨"long"⟩

end Primitive

/-
  A type.  A variable carries its upper bounds, which are
  written only where it is declared.
-/
inductive TypeName where
  | void
  | primitive (kind : Primitive)
  | class (name : ClassName)
  | generic (raw : ClassName) (arguments : List TypeName)
  | array (component : TypeName)
  | variable (name : String) (bounds : List TypeName)
  deriving Repr, Inhabited

namespace TypeName

/- The class behind a type, if it is that of objects. -/
def rawClass : TypeName → Option ClassName
  | .class c => some c
  | .generic c _ => some c
  | _ => none

end TypeName

------------------------------------------------------------
-- Equality
------------------------------------------------------------

mutual

/- Whether two types are the same. -/
def TypeName.same : TypeName → TypeName → Bool
  | .void, .void => true
  | .primitive a, .primitive b => a == b
  | .class a, .class b => a == b
  | .generic a as, .generic b bs =>
      a == b && TypeName.sameAll as bs
  | .array a, .array b => a.same b
  | .variable a as, .variable b bs =>
      a == b && TypeName.sameAll as bs
  | _, _ => false

/- Whether two lists hold the same types. -/
def TypeName.sameAll : List TypeName → List TypeName → Bool
  | [], [] => true
  | a :: as, b :: bs => a.same b && TypeName.sameAll as bs
  | _, _ => false

end

mutual

/- Sameness of types is equality. -/
theorem TypeName.same_iff :
    (a b : TypeName) → (a.same b = true ↔ a = b)
  | .void, b => by cases b <;> simp [TypeName.same]
  | .primitive _, b => by cases b <;> simp [TypeName.same]
  | .class _, b => by cases b <;> simp [TypeName.same]
  | .generic _ as, b => by
      cases b <;> simp [TypeName.same, TypeName.sameAll_iff as]
  | .array a, b => by
      cases b <;> simp [TypeName.same, TypeName.same_iff a]
  | .variable _ as, b => by
      cases b <;> simp [TypeName.same, TypeName.sameAll_iff as]

/- Sameness of lists of types is equality. -/
theorem TypeName.sameAll_iff :
    (as bs : List TypeName) →
      (TypeName.sameAll as bs = true ↔ as = bs)
  | [], bs => by cases bs <;> simp [TypeName.sameAll]
  | a :: as, bs => by
      cases bs <;>
        simp [TypeName.sameAll, TypeName.same_iff a,
          TypeName.sameAll_iff as]

end

instance : DecidableEq TypeName := fun a b =>
  decidable_of_iff _ (TypeName.same_iff a b)

------------------------------------------------------------
-- Mentioned Classes
------------------------------------------------------------

mutual

/-
  Every class a type mentions, arguments and bounds
  included, in reading order.
-/
def TypeName.mentions : TypeName → List ClassName
  | .void => []
  | .primitive _ => []
  | .class c => [c]
  | .generic raw arguments =>
      raw :: TypeName.mentionsAll arguments
  | .array component => component.mentions
  | .variable _ bounds => TypeName.mentionsAll bounds

/- Every class the types of a list mention. -/
def TypeName.mentionsAll : List TypeName → List ClassName
  | [] => []
  | t :: rest => t.mentions ++ TypeName.mentionsAll rest

end

------------------------------------------------------------
-- Spelling
------------------------------------------------------------

mutual

/- A type as it is written where it is used. -/
def TypeName.spell
    (spellClass : ClassName → String) :
    TypeName → String
  | .void => "void"
  | .primitive kind => kind.keyword
  | .class c => spellClass c
  | .generic raw arguments =>
      spellClass raw ++ "<" ++
        joinWith ", "
          (TypeName.spellAll spellClass arguments) ++ ">"
  | .array component =>
      TypeName.spell spellClass component ++ "[]"
  | .variable name _ => name

/- The types of a list as they are written. -/
def TypeName.spellAll
    (spellClass : ClassName → String) :
    List TypeName → List String
  | [] => []
  | t :: rest =>
      TypeName.spell spellClass t ::
        TypeName.spellAll spellClass rest

end

end ClientGen.Java
