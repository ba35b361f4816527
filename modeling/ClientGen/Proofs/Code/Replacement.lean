import ClientGen.Proofs.Code.Atoms

/-
  One type in place of another, everywhere in code.

  Main declarations include:
    * `TypeName.replace`
    * `Code.replaceType`
    * `Code.replaceType_ofParts`

  Types are no text, so that code may be put together before
  or after one of them is replaced.
-/

namespace ClientGen.Java

open Code

------------------------------------------------------------
-- Types
------------------------------------------------------------

mutual

/- The type with the other in place of one that is in it. -/
def TypeName.replace
    (old other : TypeName) :
    TypeName → TypeName
  | .generic raw arguments =>
      if .generic raw arguments = old then other
      else .generic raw (TypeName.replaceAll old other arguments)
  | .array component =>
      if .array component = old then other
      else .array (TypeName.replace old other component)
  | .variable name bounds =>
      if .variable name bounds = old then other
      else .variable name (TypeName.replaceAll old other bounds)
  | .void => if .void = old then other else .void
  | .primitive kind =>
      if .primitive kind = old then other
      else .primitive kind
  | .class c => if .class c = old then other else .class c

/- The types of a list likewise. -/
def TypeName.replaceAll
    (old other : TypeName) :
    List TypeName → List TypeName
  | [] => []
  | t :: rest =>
      TypeName.replace old other t ::
        TypeName.replaceAll old other rest

end

/- The type itself gives way to the other. -/
@[simp]
theorem TypeName.replace_self
    (old other : TypeName) :
    replace old other old = other := by
  cases old <;> simp [replace]

/- A class is part of nothing but generic types. -/
@[simp]
theorem TypeName.replace_class_generic
    {c raw : ClassName}
    {arguments : List TypeName}
    {other : TypeName} :
    replace (.generic raw arguments) other (.class c) =
      .class c := by
  simp [replace]

/- Types of other generic classes keep their class. -/
theorem TypeName.replace_generic_of_ne
    {raw old : ClassName}
    {arguments given : List TypeName}
    {other : TypeName}
    (hOther : raw ≠ old) :
    replace (.generic old arguments) other
        (.generic raw given) =
      .generic raw
        (TypeName.replaceAll (.generic old arguments) other
          given) := by
  simp [replace, hOther]

------------------------------------------------------------
-- Code
------------------------------------------------------------

namespace Code

/- An atom, with the other type if it is one. -/
def Atom.replaceType
    (old other : TypeName) :
    Atom → Atom
  | .type t => .type (TypeName.replace old other t)
  | a => a

/- A part likewise. -/
def Part.replaceType
    (old other : TypeName) :
    Part → Part
  | .type t => .type (TypeName.replace old other t)
  | p => p

/- A fragment with a type replaced wherever it stands. -/
def replaceType
    (old other : TypeName)
    (code : Code) :
    Code :=
  ofParts (code.parts.map (Part.replaceType old other))

variable {old other : TypeName}

/- Parts may be cut before or after. -/
theorem atoms_map_replaceType
    (parts : List Part) :
    atoms (parts.map (Part.replaceType old other)) =
      (atoms parts).map (Atom.replaceType old other) := by
  induction parts with
  | nil => rfl
  | cons p parts ih =>
      rw [List.map_cons, atoms_cons, atoms_cons,
        List.map_append, ih]
      cases p <;> simp [Part.replaceType, Atom.replaceType]

/- They may also be put together before or after. -/
@[simp]
theorem replaceType_ofParts
    (parts : List Part) :
    (ofParts parts).replaceType old other =
      ofParts (parts.map (Part.replaceType old other)) := by
  apply ofParts_eq_of_atoms
  rw [atoms_map_replaceType, atoms_map_replaceType,
    atoms_ofParts]

end Code

end ClientGen.Java
