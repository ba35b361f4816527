import ClientGen.Proofs.Code.Atoms
import ClientGen.Proofs.Java.LayoutParts
import ClientGen.Proofs.Java.Mentions
import ClientGen.Proofs.Text.Pieces

/-
  Declarations in which everything that stands for a name is
  one.

  Main declarations include:
    * `ClassName.IsLegal`
    * `TypeName.IsLegal`
    * `Method.IsLegal`
    * `TypeDecl.LexicallySafe`
    * `isIdentifier_append`
    * `isQualifiedName_append`
    * `isLegal_ofQualified`

  Names are collected from a declaration wherever they stand.
  For every kind of declaration one lemma says what has to
  hold of its pieces.
-/

namespace ClientGen.Java

open ClientGen.Text

------------------------------------------------------------
-- Derived Names
------------------------------------------------------------

/- From the dollar sign up to the last small letter. -/
theorem range_of_isIdentifierPart
    {c : Char}
    (hPart : isIdentifierPart c = true) :
    0x24 ≤ c.toNat ∧ c.toNat ≤ 0x7A := by
  simp only [isIdentifierPart, isIdentifierStart,
    Bool.or_eq_true, Bool.and_eq_true, decide_eq_true_eq,
    beq_iff_eq, Char.le_def, UInt32.le_iff_toNat_le] at hPart
  rcases hPart with (((hPart | hPart) | rfl) | rfl) | hPart
  · exact ⟨Nat.le_trans (by decide) hPart.1,
      Nat.le_trans hPart.2 (by decide)⟩
  · exact ⟨Nat.le_trans (by decide) hPart.1,
      Nat.le_trans hPart.2 (by decide)⟩
  · decide
  · decide
  · exact ⟨Nat.le_trans (by decide) hPart.1,
      Nat.le_trans hPart.2 (by decide)⟩

/- Whether a name holds a capital letter. -/
def hasCapital
    (name : String) :
    Bool :=
  name.toList.any fun c => decide ('A' ≤ c) && decide (c ≤ 'Z')

/- Words of the language have none. -/
theorem hasCapital_of_isKeyword
    {name : String}
    (hKeyword : isKeyword name = true) :
    hasCapital name = false := by
  have hAll :
      ∀ word ∈ keywords, hasCapital word = false := by
    decide
  exact hAll name (List.contains_iff_mem.mp hKeyword)

/- Letters and digits may follow what begins a name. -/
theorem hasIdentifierForm_append
    {a b : List Char}
    (hA : hasIdentifierForm a = true)
    (hB : b.all isIdentifierPart = true) :
    hasIdentifierForm (a ++ b) = true := by
  cases a with
  | nil => cases hA
  | cons c rest =>
      simp only [hasIdentifierForm, Bool.and_eq_true] at hA
      simp only [List.cons_append, hasIdentifierForm,
        List.all_append, hA, hB, Bool.and_self]

/-
  A name in two pieces is an identifier if either of them
  holds a capital letter, for then it is no keyword.
-/
theorem isIdentifier_append
    {a b : String}
    (hA : hasIdentifierForm a.toList = true)
    (hB : b.toList.all isIdentifierPart = true)
    (hCapital : hasCapital a = true ∨ hasCapital b = true) :
    isIdentifier (a ++ b) = true := by
  have hBoth : hasCapital (a ++ b) = true := by
    unfold hasCapital at *
    rw [String.toList_append, List.any_append,
      Bool.or_eq_true]
    exact hCapital
  have hWord : isKeyword (a ++ b) = false := by
    rw [Bool.eq_false_iff]
    intro hKeyword
    rw [hasCapital_of_isKeyword hKeyword] at hBoth
    cases hBoth
  unfold isIdentifier
  rw [String.toList_append, hasIdentifierForm_append hA hB,
    hWord]
  rfl

/-
  Whether a name looks like that of a class, with a capital
  somewhere.  Keywords need not be looked through then.
-/
def isTypeName
    (name : String) :
    Bool :=
  hasIdentifierForm name.toList && hasCapital name

theorem isIdentifier_of_isTypeName
    {name : String}
    (hName : isTypeName name = true) :
    isIdentifier name = true := by
  unfold isTypeName at hName
  rw [Bool.and_eq_true] at hName
  have hAppended :=
    isIdentifier_append hName.1 (b := "") (by simp)
      (.inl hName.2)
  rwa [String.append_empty] at hAppended

/- The form of an identifier. -/
theorem hasIdentifierForm_of_isIdentifier
    {name : String}
    (hName : isIdentifier name = true) :
    hasIdentifierForm name.toList = true :=
  (Bool.and_eq_true_iff.mp hName).1

/- An identifier can be extended at both ends. -/
theorem isIdentifier_affixed
    {before name after : String}
    (hBefore :
      before = "" ∨
        hasIdentifierForm before.toList = true)
    (hName : isIdentifier name = true)
    (hAfter : after.toList.all isIdentifierPart = true)
    (hCapital : hasCapital after = true) :
    isIdentifier (before ++ name ++ after) = true := by
  have hForm :
      hasIdentifierForm (before ++ name).toList = true := by
    rcases hBefore with rfl | hBefore
    · rw [String.empty_append]
      exact hasIdentifierForm_of_isIdentifier hName
    · rw [String.toList_append]
      apply hasIdentifierForm_append hBefore
      exact List.all_eq_true.mpr (all_isIdentifierPart hName).2
  exact isIdentifier_append hForm hAfter (.inr hCapital)

/- Or only at its end. -/
theorem isIdentifier_suffix
    {name after : String}
    (hName : isIdentifier name = true)
    (hAfter : after.toList.all isIdentifierPart = true)
    (hCapital : hasCapital after = true) :
    isIdentifier (name ++ after) = true := by
  have hAffixed :=
    isIdentifier_affixed (.inl rfl) hName hAfter hCapital
  rwa [String.empty_append] at hAffixed

/- Without a dot a name is a single piece. -/
theorem isQualifiedName_of_undotted
    {name : String}
    (hDot : '.' ∉ name.toList) :
    isQualifiedName name = isIdentifier name := by
  unfold isQualifiedName
  rw [pieces_eq_singleton hDot]
  simp

/- Packages lie in packages. -/
theorem isQualifiedName_append
    {outer inner : String}
    (hOuter : isQualifiedName outer = true)
    (hInner : isQualifiedName inner = true) :
    isQualifiedName (outer ++ "." ++ inner) = true := by
  have hChars :
      (outer ++ "." ++ inner).toList =
        outer.toList ++ '.' :: inner.toList := by
    simp
  unfold isQualifiedName at *
  rw [hChars, pieces_append_cons, List.all_append, hOuter,
    hInner]
  rfl

------------------------------------------------------------
-- Classes
------------------------------------------------------------

/-
  The names of the class are identifiers, and its package is
  one or several of them with dots between.
-/
structure ClassName.IsLegal (c : ClassName) : Prop where
  package : isQualifiedName c.package = true
  names : ∀ name ∈ c.simpleNames, isIdentifier name = true

namespace ClassName

/- A top-level class needs a package and a name. -/
theorem isLegal_inPackage
    {package simple : String}
    (hPackage : isQualifiedName package = true)
    (hSimple : isIdentifier simple = true) :
    (inPackage package simple).IsLegal where
  package := hPackage
  names := by
    intro name hName
    rwa [List.mem_singleton.mp hName]

/- A name with a capital will do. -/
theorem IsLegal.of_isTypeName
    {package simple : String}
    (hPackage : isQualifiedName package = true)
    (hSimple : isTypeName simple = true) :
    (inPackage package simple).IsLegal :=
  isLegal_inPackage hPackage
    (isIdentifier_of_isTypeName hSimple)

/- Legal names joined by dots hold nothing else. -/
theorem not_mem_joinWith
    {d : Char}
    {names : List String}
    (hNames : ∀ name ∈ names, isIdentifier name = true)
    (hPart : isIdentifierPart d = false)
    (hDot : d ≠ '.') :
    d ∉ (joinWith "." names).toList := by
  have hName :
      ∀ name, isIdentifier name = true → d ∉ name.toList := by
    intro name hName hMem
    rw [(all_isIdentifierPart hName).2 d hMem] at hPart
    cases hPart
  fun_induction joinWith "." names with
  | case1 => exact List.not_mem_nil
  | case2 name => exact hName name (hNames name (by simp))
  | case3 name next more ih =>
      rw [List.forall_mem_cons] at hNames
      have hFirst := hName name hNames.1
      have hRest := ih hNames.2
      simp [hFirst, hRest, hDot]

/- Neither does the name of a class within its package, -/
theorem IsLegal.not_mem_relative
    {c : ClassName}
    {d : Char}
    (hC : c.IsLegal)
    (hPart : isIdentifierPart d = false)
    (hDot : d ≠ '.') :
    d ∉ c.relative.toList :=
  not_mem_joinWith hC.names hPart hDot

/- nor a name with dots, -/
theorem not_mem_of_isQualifiedName
    {d : Char}
    {name : String}
    (hName : isQualifiedName name = true)
    (hPart : isIdentifierPart d = false)
    (hDot : d ≠ '.') :
    d ∉ name.toList := by
  intro hMem
  have hPieces :
      d = '.' ∨ ∃ piece ∈ pieces '.' name.toList, d ∈ piece :=
    mem_pieces hMem
  rcases hPieces with rfl | ⟨piece, hPiece, hIn⟩
  · exact hDot rfl
  · have hIdentifier := pieces_isIdentifier hName hPiece
    have hAll := (all_isIdentifierPart hIdentifier).2 d
    rw [String.toList_ofList] at hAll
    rw [hAll hIn] at hPart
    cases hPart

/- nor the full name of a class. -/
theorem IsLegal.not_mem_canonical
    {c : ClassName}
    {d : Char}
    (hC : c.IsLegal)
    (hPart : isIdentifierPart d = false)
    (hDot : d ≠ '.') :
    d ∉ c.canonical.toList := by
  have hRelative := hC.not_mem_relative hPart hDot
  have hPackage :=
    not_mem_of_isQualifiedName hC.package hPart hDot
  unfold canonical
  by_cases hNone : c.package = ""
  · rwa [if_pos hNone]
  · simp [hNone, hRelative, hPackage, hDot]

/- A class has a name, -/
theorem IsLegal.relative_ne_empty
    {c : ClassName}
    (hC : c.IsLegal) :
    c.relative ≠ "" := by
  have hTop :
      c.topLevel ≠ "" :=
    (all_isIdentifierPart
      (hC.names _ List.mem_cons_self)).1
  unfold relative simpleNames
  cases c.nested with
  | nil => simpa [joinWith] using hTop
  | cons next more => simp [joinWith]

/- also with its package. -/
theorem IsLegal.canonical_ne_empty
    {c : ClassName}
    (hC : c.IsLegal) :
    c.canonical ≠ "" := by
  unfold canonical
  split
  · exact hC.relative_ne_empty
  · simp

/- A class is declared in one that is legal too. -/
theorem IsLegal.outermost
    {c : ClassName}
    (hC : c.IsLegal) :
    c.outermost.IsLegal :=
  isLegal_inPackage hC.package
    (hC.names _ List.mem_cons_self)

/- The simple names of a class stand on one line. -/
theorem IsLegal.newline_not_mem_relative
    {c : ClassName}
    (hC : c.IsLegal) :
    '\n' ∉ c.relative.toList :=
  hC.not_mem_relative (by decide) (by decide)

/- A class in a class needs a name of its own. -/
@[simp]
theorem isLegal_inner
    (c : ClassName)
    (simple : String) :
    (c.inner simple).IsLegal ↔
      c.IsLegal ∧ isIdentifier simple = true := by
  constructor
  · rintro ⟨hPackage, hNames⟩
    refine ⟨⟨hPackage, ?_⟩, ?_⟩
    · intro name hName
      apply hNames
      simp only [simpleNames, inner, List.mem_cons,
        List.mem_append] at hName ⊢
      exact hName.imp id .inl
    · apply hNames
      simp [simpleNames, inner]
  · rintro ⟨⟨hPackage, hNames⟩, hSimple⟩
    refine ⟨hPackage, ?_⟩
    intro name hName
    simp only [simpleNames, inner, List.mem_cons,
      List.mem_append, List.not_mem_nil, or_false] at hName
    rcases hName with rfl | hNested | rfl
    · exact hNames _ (by simp [simpleNames])
    · exact hNames name (by simp [simpleNames, hNested])
    · exact hSimple

/- The last dot of a name separates package and class. -/
theorem ofQualified_eq
    {name : String}
    {package simple : List Char}
    (hName : name.toList = package ++ '.' :: simple)
    (hSimple : '.' ∉ simple) :
    ofQualified name =
      inPackage (String.ofList package)
        (String.ofList simple) := by
  have hKept :
      ∀ c ∈ simple.reverse, decide (c ≠ '.') = true := by
    intro c hC
    rw [decide_eq_true_iff]
    rintro rfl
    exact hSimple (List.mem_reverse.mp hC)
  have hBackwards :
      name.toList.reverse =
        simple.reverse ++ '.' :: package.reverse := by
    simp [hName]
  have hDropped :
      name.toList.reverse.dropWhile (· ≠ '.') =
        '.' :: package.reverse := by
    rw [hBackwards, List.dropWhile_append_of_pos hKept]
    rfl
  have hTaken :
      name.toList.reverse.takeWhile (· ≠ '.') =
        simple.reverse := by
    rw [hBackwards, List.takeWhile_append_of_pos hKept]
    simp
  unfold ofQualified
  simp only [hDropped, hTaken, List.reverse_reverse]

/- Behind the last dot of a name there is none. -/
theorem exists_last_dot
    {name : String}
    (hDot : '.' ∈ name.toList) :
    ∃ package simple, '.' ∉ simple ∧
      name.toList = package ++ '.' :: simple := by
  rcases List.eq_append_cons_of_mem
      (List.mem_reverse.mpr hDot) with
    ⟨backwards, before, hSplit, hNone⟩
  refine ⟨before.reverse, backwards.reverse, ?_, ?_⟩
  · rwa [List.mem_reverse]
  · rw [← List.reverse_reverse name.toList, hSplit]
    simp

/- A class that is named in full is taken apart rightly. -/
theorem isLegal_ofQualified
    {name : String}
    (hName : isQualifiedName name = true)
    (hDot : '.' ∈ name.toList) :
    (ofQualified name).IsLegal := by
  rcases exists_last_dot hDot with
    ⟨package, simple, hSimple, hChars⟩
  have hPieces := hName
  unfold isQualifiedName at hPieces
  rw [hChars, pieces_append_cons,
    pieces_eq_singleton hSimple, List.all_append,
    Bool.and_eq_true] at hPieces
  rw [ofQualified_eq hChars hSimple]
  apply isLegal_inPackage
  · unfold isQualifiedName
    rw [String.toList_ofList]
    exact hPieces.1
  · simpa using hPieces.2

end ClassName

------------------------------------------------------------
-- Names and Classes
------------------------------------------------------------

/- Names are identifiers, and classes have legal names. -/
structure AllLegal
    (names : List String)
    (classes : List ClassName) :
    Prop where
  names : ∀ name ∈ names, isIdentifier name = true
  classes : ∀ c ∈ classes, c.IsLegal

namespace AllLegal

/- What is gathered from nothing is legal. -/
@[simp]
theorem nil :
    AllLegal [] [] :=
  ⟨by simp, by simp⟩

/- What is gathered from two pieces is what either gives. -/
theorem append_iff
    {names moreNames : List String}
    {classes moreClasses : List ClassName} :
    AllLegal (names ++ moreNames) (classes ++ moreClasses) ↔
      AllLegal names classes ∧
        AllLegal moreNames moreClasses := by
  constructor
  · rintro ⟨hNames, hClasses⟩
    rw [List.forall_mem_append] at hNames hClasses
    exact ⟨⟨hNames.1, hClasses.1⟩, ⟨hNames.2, hClasses.2⟩⟩
  · rintro ⟨hFirst, hMore⟩
    exact ⟨List.forall_mem_append.mpr
        ⟨hFirst.names, hMore.names⟩,
      List.forall_mem_append.mpr
        ⟨hFirst.classes, hMore.classes⟩⟩

/- One more name has to be an identifier. -/
theorem cons_name_iff
    {name : String}
    {names : List String}
    {classes : List ClassName} :
    AllLegal (name :: names) classes ↔
      isIdentifier name = true ∧ AllLegal names classes := by
  constructor
  · rintro ⟨hNames, hClasses⟩
    rw [List.forall_mem_cons] at hNames
    exact ⟨hNames.1, hNames.2, hClasses⟩
  · rintro ⟨hName, hNames, hClasses⟩
    exact ⟨List.forall_mem_cons.mpr ⟨hName, hNames⟩,
      hClasses⟩

/- One more class has to be legal. -/
theorem cons_class_iff
    {c : ClassName}
    {names : List String}
    {classes : List ClassName} :
    AllLegal names (c :: classes) ↔
      c.IsLegal ∧ AllLegal names classes := by
  constructor
  · rintro ⟨hNames, hClasses⟩
    rw [List.forall_mem_cons] at hClasses
    exact ⟨hClasses.1, hNames, hClasses.2⟩
  · rintro ⟨hClass, hNames, hClasses⟩
    exact ⟨hNames, List.forall_mem_cons.mpr
      ⟨hClass, hClasses⟩⟩

/- What is gathered from a list is what its members give. -/
theorem flatMap_iff
    {α : Type}
    {names : α → List String}
    {classes : α → List ClassName}
    {as : List α} :
    AllLegal (as.flatMap names) (as.flatMap classes) ↔
      ∀ a ∈ as, AllLegal (names a) (classes a) := by
  induction as with
  | nil => simp
  | cons a as ih =>
      rw [List.flatMap_cons, List.flatMap_cons, append_iff,
        List.forall_mem_cons, ih]

end AllLegal

------------------------------------------------------------
-- Types
------------------------------------------------------------

mutual

/-
  The names of variables in a type, bounds included.  What
  stands for a primitive type and is no keyword is a name.
-/
def TypeName.names : TypeName → List String
  | .void => []
  | .primitive kind =>
      if isKeyword kind.keyword then [] else [kind.keyword]
  | .class _ => []
  | .generic _ arguments => TypeName.namesAll arguments
  | .array component => component.names
  | .variable name bounds =>
      name :: TypeName.namesAll bounds

/- The names of variables in the types of a list. -/
def TypeName.namesAll : List TypeName → List String
  | [] => []
  | t :: rest => t.names ++ TypeName.namesAll rest

end

namespace TypeName

/- All that a type refers to is legal. -/
def IsLegal (t : TypeName) : Prop :=
  AllLegal t.names t.mentions

/- The variables of a list of types, type by type. -/
theorem namesAll_eq_flatMap
    (types : List TypeName) :
    namesAll types = types.flatMap names := by
  induction types with
  | nil => rfl
  | cons t rest ih => rw [namesAll, ih, List.flatMap_cons]

/- Types of a list are legal one by one. -/
theorem allLegal_iff
    {types : List TypeName} :
    AllLegal (namesAll types) (mentionsAll types) ↔
      ∀ t ∈ types, t.IsLegal := by
  rw [namesAll_eq_flatMap, mentionsAll_eq_flatMap]
  exact AllLegal.flatMap_iff

@[simp]
theorem isLegal_void :
    void.IsLegal :=
  .nil

/- Keywords have the form of identifiers. -/
@[simp]
theorem isLegal_primitive_iff
    {kind : Primitive} :
    (primitive kind).IsLegal ↔
      hasIdentifierForm kind.keyword.toList = true := by
  have hWords :
      ∀ word ∈ keywords,
        hasIdentifierForm word.toList = true := by
    decide
  unfold IsLegal
  rw [names, mentions]
  cases hKeyword : isKeyword kind.keyword with
  | true =>
      have hWord :=
        hWords _ (List.contains_iff_mem.mp hKeyword)
      rw [if_pos rfl]
      exact iff_of_true .nil hWord
  | false =>
      rw [if_neg Bool.false_ne_true, AllLegal.cons_name_iff,
        and_iff_left .nil, isIdentifier, hKeyword]
      simp

@[simp]
theorem isLegal_class_iff
    {c : ClassName} :
    (TypeName.class c).IsLegal ↔ c.IsLegal :=
  AllLegal.cons_class_iff.trans (and_iff_left .nil)

@[simp]
theorem isLegal_generic_iff
    {raw : ClassName}
    {arguments : List TypeName} :
    (generic raw arguments).IsLegal ↔
      raw.IsLegal ∧ ∀ t ∈ arguments, t.IsLegal :=
  AllLegal.cons_class_iff.trans
    (and_congr_right fun _ => allLegal_iff)

@[simp]
theorem isLegal_array_iff
    {component : TypeName} :
    (array component).IsLegal ↔ component.IsLegal := by
  unfold IsLegal
  rw [names, mentions]

@[simp]
theorem isLegal_variable_iff
    {name : String}
    {bounds : List TypeName} :
    (TypeName.variable name bounds).IsLegal ↔
      isIdentifier name = true ∧
        ∀ t ∈ bounds, t.IsLegal :=
  AllLegal.cons_name_iff.trans
    (and_congr_right fun _ => allLegal_iff)

end TypeName

------------------------------------------------------------
-- Code
------------------------------------------------------------

namespace Code

/- The names of variables in the types of a part. -/
def Part.names : Part → List String
  | .type t => t.names
  | _ => []

/- All that a part refers to is legal. -/
def Part.IsLegal (p : Part) : Prop :=
  AllLegal p.names p.mentions

@[simp]
theorem Part.isLegal_text
    (s : String) :
    (Part.text s).IsLegal :=
  .nil

@[simp]
theorem Part.isLegal_quotedText
    (value : String) :
    (quotedText value).IsLegal :=
  .nil

@[simp]
theorem Part.isLegal_indent :
    Part.indent.IsLegal :=
  .nil

@[simp]
theorem Part.isLegal_unindent :
    Part.unindent.IsLegal :=
  .nil

@[simp]
theorem Part.isLegal_type_iff
    {t : TypeName} :
    (Part.type t).IsLegal ↔ t.IsLegal :=
  Iff.rfl

/- The names of variables in code. -/
def names
    (code : Code) :
    List String :=
  code.parts.flatMap Part.names

/- All that the code refers to is legal. -/
def IsLegal (code : Code) : Prop :=
  AllLegal code.names code.mentions

/- Code is legal if its parts are. -/
theorem isLegal_iff
    {code : Code} :
    code.IsLegal ↔ ∀ p ∈ code.parts, p.IsLegal :=
  AllLegal.flatMap_iff

/- The normal form has the types that the parts have. -/
@[simp]
theorem isLegal_ofParts_iff
    {parts : List Part} :
    (ofParts parts).IsLegal ↔ ∀ p ∈ parts, p.IsLegal := by
  rw [isLegal_iff]
  exact forall_mem_ofParts_iff Part.isLegal_text

@[simp]
theorem isLegal_empty :
    empty.IsLegal :=
  .nil

/- Fragments that are joined are legal one by one. -/
theorem isLegal_join
    {separator : String}
    {blocks : List Code}
    (hBlocks : ∀ code ∈ blocks, code.IsLegal) :
    (join blocks separator).IsLegal := by
  simp only [isLegal_iff] at hBlocks ⊢
  exact forall_mem_join Part.isLegal_text hBlocks

end Code

/- What is gathered from an option is what it holds. -/
theorem AllLegal.elim_iff
    {α : Type}
    {names : α → List String}
    {classes : α → List ClassName}
    {o : Option α} :
    AllLegal (o.elim [] names) (o.elim [] classes) ↔
      ∀ a ∈ o, AllLegal (names a) (classes a) := by
  cases o with
  | none => simp
  | some a => simp

------------------------------------------------------------
-- Declarations
------------------------------------------------------------

/- The names of variables in an annotation. -/
def Annotation.names
    (a : Annotation) :
    List String :=
  a.value.elim [] Code.names

/- All that an annotation refers to is legal. -/
def Annotation.IsLegal (a : Annotation) : Prop :=
  AllLegal a.names a.mentions

/- Its class is legal, and so is its value. -/
theorem Annotation.isLegal_iff
    {a : Annotation} :
    a.IsLegal ↔
      a.type.IsLegal ∧ ∀ code ∈ a.value, code.IsLegal :=
  AllLegal.cons_class_iff.trans
    (and_congr_right fun _ => AllLegal.elim_iff)

@[simp]
theorem Annotation.isLegal_marker_iff
    {type : ClassName} :
    (.marker type : Annotation).IsLegal ↔ type.IsLegal :=
  AllLegal.cons_class_iff.trans (and_iff_left .nil)

/- The name of a parameter and those in its type. -/
def Parameter.names
    (p : Parameter) :
    List String :=
  p.name :: p.type.names

/- A parameter and all that it refers to is legal. -/
def Parameter.IsLegal (p : Parameter) : Prop :=
  AllLegal p.names p.type.mentions

theorem Parameter.isLegal_iff
    {p : Parameter} :
    p.IsLegal ↔
      isIdentifier p.name = true ∧ p.type.IsLegal :=
  AllLegal.cons_name_iff

@[simp]
theorem Parameter.isLegal_plain_iff
    {type : TypeName}
    {name : String} :
    (Parameter.plain type name).IsLegal ↔
      isIdentifier name = true ∧ type.IsLegal :=
  AllLegal.cons_name_iff

/- The name of a field and those in it. -/
def Field.names
    (f : Field) :
    List String :=
  f.name :: (f.type.names ++ f.initializer.elim [] Code.names)

/- A field and all that it refers to is legal. -/
def Field.IsLegal (f : Field) : Prop :=
  AllLegal f.names f.mentions

theorem Field.isLegal_iff
    {f : Field} :
    f.IsLegal ↔
      isIdentifier f.name = true ∧ f.type.IsLegal ∧
        ∀ code ∈ f.initializer, code.IsLegal :=
  AllLegal.cons_name_iff.trans (and_congr_right fun _ =>
    AllLegal.append_iff.trans
      (and_congr_right fun _ => AllLegal.elim_iff))

@[simp]
theorem Field.isLegal_plain_iff
    {type : TypeName}
    {name : String}
    {modifiers : List Modifier} :
    (Field.plain type name modifiers).IsLegal ↔
      isIdentifier name = true ∧ type.IsLegal :=
  AllLegal.cons_name_iff.trans (and_congr_right fun _ =>
    AllLegal.append_iff.trans (and_iff_left .nil))

namespace Method

/- The name of a method; constructors have none. -/
def ownNames
    (m : Method) :
    List String :=
  match m.kind with
  | .method name => [name]
  | .constructor => []

/- The names of a method, its parameters and variables. -/
def names
    (m : Method) :
    List String :=
  m.ownNames ++
    (m.annotations.flatMap Annotation.names ++
      TypeName.namesAll m.typeVariables ++
      m.returns.names ++
      m.parameters.flatMap Parameter.names ++
      TypeName.namesAll m.throws ++
      m.body.names)

/- A method and all that it refers to is legal. -/
def IsLegal (m : Method) : Prop :=
  AllLegal m.names m.mentions

/- A method is legal if all its pieces are. -/
theorem isLegal_iff
    {m : Method} :
    m.IsLegal ↔
      (∀ name ∈ m.ownNames, isIdentifier name = true) ∧
        (∀ a ∈ m.annotations, a.IsLegal) ∧
        (∀ t ∈ m.typeVariables, t.IsLegal) ∧
        m.returns.IsLegal ∧
        (∀ p ∈ m.parameters, p.IsLegal) ∧
        (∀ t ∈ m.throws, t.IsLegal) ∧
        m.body.IsLegal := by
  have hOwn :
      AllLegal m.ownNames [] ↔
        ∀ name ∈ m.ownNames, isIdentifier name = true :=
    ⟨fun hLegal => hLegal.names, fun hNames => ⟨hNames, by simp⟩⟩
  unfold IsLegal names mentions
  rw [← List.nil_append (_ ++ m.body.mentions),
    AllLegal.append_iff, AllLegal.append_iff,
    AllLegal.append_iff, AllLegal.append_iff,
    AllLegal.append_iff, AllLegal.append_iff, hOwn,
    AllLegal.flatMap_iff, AllLegal.flatMap_iff,
    TypeName.allLegal_iff, TypeName.allLegal_iff]
  simp only [and_assoc]
  rfl

end Method

namespace TypeDecl

/- The name of a type and all names in it. -/
def names
    (d : TypeDecl) :
    List String :=
  d.name ::
    (d.annotations.flatMap Annotation.names ++
      TypeName.namesAll d.typeVariables ++
      d.superclass.elim [] TypeName.names ++
      TypeName.namesAll d.superinterfaces ++
      d.fields.flatMap Field.names ++
      d.methods.flatMap Method.names)

/-
  Every name in the declaration is an identifier, and every
  class it mentions is named by identifiers.
-/
def LexicallySafe (d : TypeDecl) : Prop :=
  AllLegal d.names d.mentions

/- All that a declaration is made of, but its own name. -/
structure PiecesLegal (d : TypeDecl) : Prop where
  annotations : ∀ a ∈ d.annotations, a.IsLegal
  typeVariables : ∀ t ∈ d.typeVariables, t.IsLegal
  superclass : ∀ t ∈ d.superclass, t.IsLegal
  superinterfaces : ∀ t ∈ d.superinterfaces, t.IsLegal
  fields : ∀ f ∈ d.fields, f.IsLegal
  methods : ∀ m ∈ d.methods, m.IsLegal

/- A declaration is safe if all its pieces are, -/
theorem lexicallySafe_iff
    {d : TypeDecl} :
    d.LexicallySafe ↔
      isIdentifier d.name = true ∧ d.PiecesLegal := by
  unfold LexicallySafe names mentions
  rw [AllLegal.cons_name_iff, AllLegal.append_iff,
    AllLegal.append_iff, AllLegal.append_iff,
    AllLegal.append_iff, AllLegal.append_iff,
    AllLegal.elim_iff, AllLegal.flatMap_iff,
    AllLegal.flatMap_iff, AllLegal.flatMap_iff,
    TypeName.allLegal_iff, TypeName.allLegal_iff]
  refine and_congr_right fun _ => ⟨?_, ?_⟩
  · rintro ⟨⟨⟨⟨⟨hAnnotations, hVariables⟩, hSuperclass⟩,
      hInterfaces⟩, hFields⟩, hMethods⟩
    exact ⟨hAnnotations, hVariables, hSuperclass,
      hInterfaces, hFields, hMethods⟩
  · intro hPieces
    exact ⟨⟨⟨⟨⟨hPieces.annotations, hPieces.typeVariables⟩,
      hPieces.superclass⟩, hPieces.superinterfaces⟩,
      hPieces.fields⟩, hPieces.methods⟩

theorem lexicallySafe_of_pieces
    {d : TypeDecl}
    (hName : isIdentifier d.name = true)
    (hPieces : d.PiecesLegal) :
    d.LexicallySafe :=
  lexicallySafe_iff.mpr ⟨hName, hPieces⟩

end TypeDecl

end ClientGen.Java
