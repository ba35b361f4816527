import ClientGen.Java.TypeName

/-
  Fragments of Java code in which references to types are
  still types, not text.

  Key definitions include:
    * `Code.Part`
    * `Code`
    * `Code.ofParts`
    * `Code.append`
    * `Code.join`
    * `Code.mentions`
    * `Code.Normal`

  Fragments are kept in a normal form: no part is an empty
  text and no text follows a text.  Two fragments that
  write the same things are then equal.
-/

namespace ClientGen.Java

------------------------------------------------------------
-- Parts
------------------------------------------------------------

/-
  One piece of code: text, a type, or a change of the
  indentation of the lines that begin after it.
-/
inductive Code.Part where
  | text (s : String)
  | type (t : TypeName)
  | indent
  | unindent
  deriving DecidableEq, Repr

instance : Coe String Code.Part :=
  ⟨Code.Part.text⟩

instance : Coe TypeName Code.Part :=
  ⟨Code.Part.type⟩

instance : Coe ClassName Code.Part :=
  ⟨fun c => Code.Part.type (TypeName.class c)⟩

/- A fragment of code. -/
structure Code where
  parts : List Code.Part
  deriving DecidableEq, Repr, Inhabited

namespace Code

------------------------------------------------------------
-- Normal Form
------------------------------------------------------------

/- Put a part in front of parts in normal form. -/
def Part.before
    (p : Part)
    (rest : List Part) :
    List Part :=
  match p, rest with
  | .text s, .text t :: more =>
      if s = "" then .text t :: more else .text (s ++ t) :: more
  | .text s, rest => if s = "" then rest else .text s :: rest
  | p, rest => p :: rest

/- The fragment that writes the parts one after the other. -/
def ofParts
    (parts : List Part) :
    Code :=
  ⟨parts.foldr Part.before []⟩

/- No text is empty and no two texts are neighbours. -/
def NormalParts : List Part → Prop
  | [] => True
  | .text _ :: .text _ :: _ => False
  | .text s :: rest => s ≠ "" ∧ NormalParts rest
  | _ :: rest => NormalParts rest

/- The fragment is in normal form. -/
def Normal (code : Code) : Prop :=
  NormalParts code.parts

------------------------------------------------------------
-- Building
------------------------------------------------------------

/- The fragment without any code. -/
def empty : Code :=
  ⟨[]⟩

/- Whether the fragment holds no code. -/
def isEmpty
    (code : Code) :
    Bool :=
  code.parts.isEmpty

/- One fragment after the other. -/
def append
    (a b : Code) :
    Code :=
  ofParts (a.parts ++ b.parts)

instance : Append Code :=
  ⟨append⟩

/- The parts of fragments with a text between each two. -/
def joinedParts
    (separator : String) :
    List Code → List Part
  | [] => []
  | [code] => code.parts
  | code :: next :: more =>
      code.parts ++
        (.text separator :: joinedParts separator (next :: more))

/- Fragments one after the other with a text between. -/
def join
    (blocks : List Code)
    (separator : String) :
    Code :=
  ofParts (joinedParts separator blocks)

------------------------------------------------------------
-- Mentioned Classes
------------------------------------------------------------

/- Every class a part mentions. -/
def Part.mentions : Part → List ClassName
  | .type t => t.mentions
  | _ => []

/- Every class the fragment mentions, in reading order. -/
def mentions
    (code : Code) :
    List ClassName :=
  code.parts.flatMap Part.mentions

end Code

end ClientGen.Java
