import ClientGen.Java.Body

/-
  What code writes, one character at a time.

  Main declarations include:
    * `Code.Atom`
    * `Code.atoms`
    * `Code.atoms_ofParts`
    * `Code.ofParts_eq_iff`

  A fragment keeps its text in the longest possible runs.
  Cutting every run into its characters forgets where one
  text ended and the next began, so two lists of parts make
  the same fragment exactly if they have the same atoms.
-/

namespace ClientGen.Java.Code

------------------------------------------------------------
-- Atoms
------------------------------------------------------------

/- A part that cannot be cut into smaller ones. -/
inductive Atom where
  | char (c : Char)
  | type (t : TypeName)
  | indent
  | unindent
  deriving DecidableEq, Repr

/- An atom as a part. -/
def Atom.part : Atom → Part
  | .char c => .text (String.singleton c)
  | .type t => .type t
  | .indent => .indent
  | .unindent => .unindent

/- The atoms of one part. -/
def Part.atoms : Part → List Atom
  | .text s => s.toList.map .char
  | .type t => [.type t]
  | .indent => [.indent]
  | .unindent => [.unindent]

@[simp]
theorem Part.atoms_text
    (s : String) :
    (Part.text s).atoms = s.toList.map .char :=
  rfl

@[simp]
theorem Part.atoms_type
    (t : TypeName) :
    (Part.type t).atoms = [.type t] :=
  rfl

@[simp]
theorem Part.atoms_indent :
    Part.indent.atoms = [.indent] :=
  rfl

@[simp]
theorem Part.atoms_unindent :
    Part.unindent.atoms = [.unindent] :=
  rfl

/- The atoms of parts, from left to right. -/
def atoms
    (parts : List Part) :
    List Atom :=
  parts.flatMap Part.atoms

@[simp]
theorem atoms_nil :
    atoms [] = [] :=
  rfl

@[simp]
theorem atoms_cons
    (p : Part)
    (rest : List Part) :
    atoms (p :: rest) = p.atoms ++ atoms rest :=
  rfl

@[simp]
theorem atoms_append
    (a b : List Part) :
    atoms (a ++ b) = atoms a ++ atoms b :=
  List.flatMap_append

------------------------------------------------------------
-- Parts in Front
------------------------------------------------------------

/- The empty text is not kept. -/
@[simp]
theorem before_empty_text
    (rest : List Part) :
    Part.before (.text "") rest = rest := by
  rcases rest with _ | ⟨p, more⟩
  · rfl
  · cases p <;> rfl

/- A text may be put in front in two pieces. -/
theorem before_text_append
    (s t : String)
    (rest : List Part) :
    Part.before (.text (s ++ t)) rest =
      Part.before (.text s) (Part.before (.text t) rest) := by
  by_cases hS : s = ""
  · simp [hS]
  · by_cases hT : t = ""
    · simp [hT]
    · rcases rest with _ | ⟨p, more⟩
      · simp [Part.before, hS, hT]
      · cases p <;>
          simp [Part.before, hS, hT, String.append_assoc]

/- Putting a part in front puts its atoms in front. -/
theorem atoms_before
    (p : Part)
    (rest : List Part) :
    atoms (p.before rest) = p.atoms ++ atoms rest := by
  cases p with
  | text s =>
      by_cases hS : s = ""
      · subst hS
        rw [before_empty_text]
        rfl
      · rcases rest with _ | ⟨q, more⟩
        · simp [Part.before, hS]
        · cases q <;>
            simp [Part.before, hS, Part.atoms]
  | type t => rfl
  | indent => rfl
  | unindent => rfl

/- A part goes in front one atom at a time. -/
theorem before_eq_foldr_atoms
    (p : Part)
    (rest : List Part) :
    p.before rest =
      p.atoms.foldr (fun a rest => a.part.before rest)
        rest := by
  cases p with
  | text s =>
      suffices hChars :
          ∀ chars : List Char,
            Part.before (.text (String.ofList chars)) rest =
              (chars.map Atom.char).foldr
                (fun a rest => a.part.before rest) rest by
        simpa [Part.atoms] using hChars s.toList
      intro chars
      induction chars with
      | nil => exact before_empty_text rest
      | cons c chars ih =>
          have hSplit :
              String.ofList (c :: chars) =
                String.singleton c ++ String.ofList chars := by
            apply String.toList_injective
            simp
          rw [hSplit, before_text_append, ih]
          rfl
  | type t => rfl
  | indent => rfl
  | unindent => rfl

------------------------------------------------------------
-- Normal Form
------------------------------------------------------------

/- The normal form of parts is made from their atoms. -/
theorem ofParts_eq_ofAtoms
    (parts : List Part) :
    ofParts parts =
      ofParts ((atoms parts).map Atom.part) := by
  unfold ofParts
  congr 1
  induction parts with
  | nil => rfl
  | cons p parts ih =>
      rw [List.foldr_cons, ih, before_eq_foldr_atoms]
      simp [List.foldr_map]

/- The normal form writes what the parts write. -/
@[simp]
theorem atoms_ofParts
    (parts : List Part) :
    atoms (ofParts parts).parts = atoms parts := by
  unfold ofParts
  induction parts with
  | nil => rfl
  | cons p parts ih =>
      rw [List.foldr_cons, atoms_before, ih, atoms_cons]

/- Lists of parts with the same atoms make one fragment. -/
theorem ofParts_eq_of_atoms
    {a b : List Part}
    (hAtoms : atoms a = atoms b) :
    ofParts a = ofParts b := by
  rw [ofParts_eq_ofAtoms a, hAtoms, ← ofParts_eq_ofAtoms]

/- Fragments are told apart by their atoms. -/
theorem ofParts_eq_iff
    {a b : List Part} :
    ofParts a = ofParts b ↔ atoms a = atoms b := by
  refine ⟨fun hEq => ?_, ofParts_eq_of_atoms⟩
  rw [← atoms_ofParts a, hEq, atoms_ofParts]

/- Parts in normal form may stand for those given. -/
theorem ofParts_append_ofParts
    (a b : List Part) :
    ofParts ((ofParts a).parts ++ b) = ofParts (a ++ b) :=
  ofParts_eq_of_atoms (by simp)

------------------------------------------------------------
-- Pieces of Bodies
------------------------------------------------------------

@[simp]
theorem atoms_statement
    (parts : List Part) :
    atoms (statement parts) =
      atoms parts ++ [.char ';', .char '\n'] := by
  simp [statement]

@[simp]
theorem atoms_block
    (head body : List Part) :
    atoms (block head body) =
      atoms head ++
        [.char ' ', .char '\x7b', .char '\n', .indent] ++
        atoms body ++
        [.unindent, .char '\x7d', .char '\n'] := by
  simp [block]

@[simp]
theorem atoms_continued
    (head lines : List Part) :
    atoms (continued head lines) =
      atoms head ++ [.indent, .indent] ++ atoms lines ++
        [.unindent, .unindent] := by
  simp [continued]

@[simp]
theorem atoms_quotedText
    (value : String) :
    (quotedText value).atoms =
      (stringLiteral value).toList.map .char :=
  rfl

end ClientGen.Java.Code
