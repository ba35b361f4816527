import ClientGen.Proofs.Java.Lexical
import ClientGen.Proofs.Java.Spelling

/-
  Class names that are read back as they are written.

  Main declarations include:
    * `Reference`
    * `TypeDecl.references`
    * `ClassName.ofChain`
    * `SourceFile.typeNamed`
    * `SourceFile.readName`
    * `SourceFile.Clear`
    * `SourceFile.readsBack_iff`
    * `Conventional`
    * `conventional_of_followsConventions`
    * `SourceFile.readsBack_iff_of_conventional`

  The first part of a written name is taken for a type
  variable, then for a type that the file sees, and for a
  package last.  Spelling looks at classes only, so variables
  and packages can get in its way.
-/

namespace ClientGen.Java

open ClientGen.Text

------------------------------------------------------------
-- References
------------------------------------------------------------

/-
  A class that is written somewhere, and the names of the
  type variables there.
-/
structure Reference where
  vars : List String
  target : ClassName
  deriving DecidableEq, Repr

/- The classes of parts in the scope of type variables. -/
def referencesIn
    (vars : List String)
    (parts : List Code.Part) :
    List Reference :=
  (parts.flatMap Code.Part.written).map (Reference.mk vars)

/- The names of declared type variables, without bounds. -/
def variableNames
    (declared : List TypeName) :
    List String :=
  declared.filterMap fun t =>
    match t with
    | .variable name _ => some name
    | _ => none

/-
  All classes that the text of a type names.  A variable of
  the type is in scope but for the annotations of the type,
  and that of a method throughout the method.
-/
def TypeDecl.references
    (d : TypeDecl) :
    List Reference :=
  let vars := variableNames d.typeVariables
  referencesIn [] (annotationsLayout d.annotations) ++
    referencesIn vars
      (typeVariablesLayout d.typeVariables ">" ++
        superclassLayout d.superclass ++
        superinterfacesLayout d.kind d.superinterfaces ++
        d.fields.flatMap Field.layout) ++
    d.methods.flatMap fun m =>
      referencesIn (variableNames m.typeVariables ++ vars)
        (m.layout d.name (d.kind == .interfaceType))

@[simp]
theorem map_target_referencesIn
    (vars : List String)
    (parts : List Code.Part) :
    (referencesIn vars parts).map Reference.target =
      parts.flatMap Code.Part.written := by
  simp [referencesIn, Function.comp_def]

/- The separators between groups write no class. -/
theorem written_separated
    (separator : String)
    (groups : List (List Code.Part)) :
    (separated separator groups).flatMap Code.Part.written =
      groups.flatMap (·.flatMap Code.Part.written) := by
  induction groups with
  | nil => rfl
  | cons group rest ih =>
      cases rest with
      | nil => simp [separated]
      | cons next more =>
          rw [separated, List.flatMap_append,
            List.flatMap_cons, ih]
          simp [Code.Part.written]

/- What mentions no class writes none. -/
theorem written_eq_nil
    {parts : List Code.Part}
    (hNone : parts.flatMap Code.Part.mentions = []) :
    parts.flatMap Code.Part.written = [] := by
  have hSubset := flatMap_written_subset parts
  rw [hNone] at hSubset
  exact List.subset_nil.mp hSubset

/- The references are the classes in the text, in order. -/
theorem TypeDecl.map_target_references
    (d : TypeDecl) :
    d.references.map Reference.target =
      d.layout.flatMap Code.Part.written := by
  have hMembers :
      d.members.flatMap (·.flatMap Code.Part.written) =
        (d.fields.flatMap Field.layout).flatMap
            Code.Part.written ++
          d.methods.flatMap fun m =>
            (m.layout d.name (d.kind == .interfaceType)
              ).flatMap Code.Part.written := by
    unfold TypeDecl.members
    rw [List.flatMap_append, List.flatMap_map,
      List.flatMap_map, List.flatMap_assoc]
  unfold TypeDecl.references TypeDecl.layout
  simp [List.flatMap_append, List.map_append,
    List.map_flatMap, written_separated, hMembers,
    written_eq_nil (mentions_javadocLayout _),
    written_eq_nil (mentions_modifiersLayout _),
    Code.Part.written]

/- What is referred to is mentioned. -/
theorem TypeDecl.target_mem_mentions
    {d : TypeDecl}
    {r : Reference}
    (hR : r ∈ d.references) :
    r.target ∈ d.mentions := by
  have hTarget :
      r.target ∈ d.references.map Reference.target :=
    List.mem_map_of_mem hR
  rw [d.map_target_references] at hTarget
  exact d.mentions_layout (flatMap_written_subset _ hTarget)

/-
  A reference is in the scope of no variables, or of those of
  the type alone, or of those of a method as well.
-/
theorem TypeDecl.scope_of_mem_references
    {d : TypeDecl}
    {r : Reference}
    (hR : r ∈ d.references) :
    r.vars = [] ∨
      r.vars = variableNames d.typeVariables ∨
      ∃ m ∈ d.methods,
        r.vars =
            variableNames m.typeVariables ++
              variableNames d.typeVariables ∧
          r.target ∈ m.mentions := by
  have hIn :
      ∀ {vars : List String} {parts : List Code.Part},
        r ∈ referencesIn vars parts →
          r.vars = vars ∧
            r.target ∈ parts.flatMap Code.Part.mentions := by
    intro vars parts hR
    rcases List.mem_map.mp hR with ⟨c, hC, rfl⟩
    exact ⟨rfl, flatMap_written_subset parts hC⟩
  unfold references at hR
  rcases List.mem_append.mp hR with hR | hR
  · rcases List.mem_append.mp hR with hR | hR
    · exact .inl (hIn hR).1
    · exact .inr (.inl (hIn hR).1)
  · rcases List.mem_flatMap.mp hR with ⟨m, hM, hR⟩
    rcases hIn hR with ⟨hVariables, hTarget⟩
    exact .inr (.inr ⟨m, hM, hVariables,
      m.mentions_layout _ _ hTarget⟩)

------------------------------------------------------------
-- Chains of Names
------------------------------------------------------------

namespace ClassName

/- The names of the packages around the class. -/
def packagePath
    (c : ClassName) :
    List String :=
  c.packageNames.map String.ofList

/- The package that all others around the class lie in. -/
def root
    (c : ClassName) :
    String :=
  c.packagePath.headD ""

/-
  The class that names behind those of packages lead to: the
  first one there is, and then the classes nested in it.
-/
def ofChain
    (known : List ClassName)
    (packages : List String) :
    List String → Option ClassName
  | [] => none
  | name :: rest =>
      let c := inPackage (joinWith "." packages) name
      if c ∈ known then some { c with nested := rest }
      else ofChain known (packages ++ [name]) rest

/- The classes that packages in packages would be. -/
def alongChain
    (packages : List String) :
    List String → List ClassName
  | [] => []
  | name :: rest =>
      inPackage (joinWith "." packages) name ::
        alongChain (packages ++ [name]) rest

/- The packages around a class but the first, as classes. -/
def packageClasses
    (c : ClassName) :
    List ClassName :=
  alongChain [c.root] c.packagePath.tail

variable {c : ClassName}
variable {known : List ClassName}

@[simp]
theorem topLevel_outermost :
    c.outermost.topLevel = c.topLevel :=
  rfl

/- The package is the path with dots between the names. -/
theorem joinWith_packagePath
    (hPackage : c.package ≠ "") :
    joinWith "." c.packagePath = c.package := by
  unfold packagePath packageNames
  rw [if_neg hPackage]
  exact joinWith_pieces '.' c.package

/- There is a first package, and others in it. -/
theorem packagePath_eq_cons
    (hPackage : c.package ≠ "") :
    c.packagePath = c.root :: c.packagePath.tail := by
  unfold root packagePath packageNames
  rw [if_neg hPackage]
  cases hPieces : pieces '.' c.package.toList with
  | nil => exact absurd hPieces (pieces_ne_nil _)
  | cons first rest => rfl

/-
  The names of a class that there is lead to it, unless one
  of its packages is taken for a class.
-/
theorem ofChain_eq_some_iff
    {before after : List String}
    (hPackage : joinWith "." (before ++ after) = c.package)
    (hKnown : c.outermost ∈ known) :
    ofChain known before (after ++ c.simpleNames) = some c ↔
      ∀ d ∈ alongChain before after, d ∉ known := by
  induction after generalizing before with
  | nil =>
      rw [List.append_nil] at hPackage
      have hHere :
          inPackage (joinWith "." before) c.topLevel ∈
            known := by
        rwa [hPackage]
      rw [List.nil_append, simpleNames, ofChain, if_pos hHere]
      simp [alongChain, inPackage, hPackage]
  | cons name after ih =>
      rw [List.cons_append, ofChain, alongChain,
        List.forall_mem_cons]
      by_cases hHere :
          inPackage (joinWith "." before) name ∈ known
      · -- The class found has too many names below it.
        have hOther :
            { inPackage (joinWith "." before) name with
              nested := after ++ c.simpleNames } ≠ c := by
          intro hSame
          have hNested := congrArg (·.nested.length) hSame
          simp [simpleNames] at hNested
          omega
        simp [hHere, hOther]
      · rw [if_neg hHere, ih (by simpa using hPackage)]
        exact (and_iff_right hHere).symm

/- A class with a legal name is in a package. -/
theorem IsLegal.packaged
    (hLegal : c.IsLegal) :
    c.package ≠ "" ∧ c.Undotted := by
  refine ⟨?_, fun name hName =>
    undotted_of_isIdentifier (hLegal.names name hName)⟩
  intro hNone
  have hPackage := hLegal.package
  rw [hNone] at hPackage
  cases hPackage

/- A class at the top of its file is named behind a dot. -/
theorem canonical_of_topLevel
    (hPackage : c.package ≠ "")
    (hTop : c.nested = []) :
    c.canonical = c.package ++ "." ++ c.topLevel := by
  unfold canonical relative simpleNames
  rw [if_neg hPackage, hTop]
  rfl

/- The last dot of a full name is the one in front of it. -/
theorem ofQualified_canonical
    (hPackage : c.package ≠ "")
    (hUndotted : '.' ∉ c.topLevel.toList)
    (hTop : c.nested = []) :
    ofQualified c.canonical = c := by
  have hChars :
      c.canonical.toList =
        c.package.toList ++ '.' :: c.topLevel.toList := by
    simp [canonical_of_topLevel hPackage hTop]
  rw [ofQualified_eq hChars hUndotted]
  cases c
  simp_all [inPackage]

end ClassName

------------------------------------------------------------
-- Reading
------------------------------------------------------------

namespace SourceFile

/- The class that the file declares and those it imports. -/
def atHand
    (f : SourceFile) :
    List ClassName :=
  f.className :: f.scope.imports.map ClassName.ofQualified

/-
  The type with a simple name in the file, where there are
  these classes: one at hand, or else one of the file's
  package, or else one of the language.
-/
def typeNamed
    (f : SourceFile)
    (known : List ClassName)
    (simple : String) :
    Option ClassName :=
  (f.atHand.find? (·.topLevel == simple)).or
    ([f.className.peer simple, ClassName.javaLang simple
      ].find? (decide <| · ∈ known))

/-
  The class that a name means where it is written, if it
  means one.
-/
def readName
    (f : SourceFile)
    (known : List ClassName)
    (vars : List String)
    (written : String) :
    Option ClassName :=
  match (pieces '.' written.toList).map String.ofList with
  | [] => none
  | first :: rest =>
      if first ∈ vars then none
      else
        match f.typeNamed known first with
        | some t => some { t with nested := rest }
        | none => ClassName.ofChain known [first] rest

/- What is written for a class is read as that class. -/
def ReadsBack
    (f : SourceFile)
    (known : List ClassName)
    (r : Reference) :
    Prop :=
  f.readName known r.vars (f.scope.spell r.target) =
    some r.target

/- A class of the language is hidden by one beside the file. -/
def Hides
    (f : SourceFile)
    (known : List ClassName)
    (c : ClassName) :
    Prop :=
  c.package = "java.lang" ∧ f.package ≠ "java.lang" ∧
    f.className.peer c.topLevel ∈ known

/-
  A class that is written by its simple names has nothing
  before it: no variable and no class of the package.  Of
  one that is written in full the package has not: no
  variable and no type is named like its first part, and no
  part of it is a class as well.
-/
structure Clear
    (f : SourceFile)
    (known : List ClassName)
    (r : Reference) :
    Prop where
  short : f.OnlyInSight r.target.outermost →
    r.target.topLevel ∉ r.vars ∧
      ¬f.Hides known r.target
  full : ¬f.OnlyInSight r.target.outermost →
    r.target.root ∉ r.vars ∧
      f.typeNamed known r.target.root = none ∧
      ∀ d ∈ r.target.packageClasses, d ∉ known

/-
  All classes the file mentions are in packages, and their
  names hold no dots.
-/
def Packaged (f : SourceFile) : Prop :=
  ∀ c ∈ f.classes, c.package ≠ "" ∧ c.Undotted

/- There are all classes that the file mentions. -/
def Supplied
    (f : SourceFile)
    (known : List ClassName) :
    Prop :=
  ∀ c ∈ f.classes, c.outermost ∈ known

/- What a file refers to is among its classes. -/
theorem target_mem_classes
    {f : SourceFile}
    {r : Reference}
    (hR : r ∈ f.declaration.references) :
    r.target ∈ f.classes :=
  List.mem_cons_of_mem _ (TypeDecl.target_mem_mentions hR)

/- The mark of generated code refers to a class of its own. -/
theorem mem_mentions_declaration
    {f : SourceFile}
    {c : ClassName}
    (hC : c ∈ f.declaration.mentions) :
    c = .inPackage "javax.annotation" "Generated" ∨
      c ∈ f.type.mentions := by
  unfold declaration at hC
  cases hMarker : f.marker with
  | none =>
      rw [hMarker] at hC
      exact .inr hC
  | some value =>
      rw [hMarker] at hC
      have hMark :
          (generatedMarker value).mentions =
            [.inPackage "javax.annotation" "Generated"] := by
        simp [generatedMarker, Annotation.mentions,
          Code.mentions_ofParts]
      simpa [TypeDecl.mentions, hMark, or_assoc] using hC

/- It stands in the scope of no variables. -/
theorem mem_references_declaration
    {f : SourceFile}
    {r : Reference}
    (hR : r ∈ f.declaration.references) :
    r.vars = [] ∨ r ∈ f.type.references := by
  unfold declaration at hR
  cases hMarker : f.marker with
  | none =>
      rw [hMarker] at hR
      exact .inr hR
  | some value =>
      rw [hMarker] at hR
      unfold TypeDecl.references at hR ⊢
      rw [List.append_assoc] at hR ⊢
      rcases List.mem_append.mp hR with hR | hR
      · rcases List.mem_map.mp hR with ⟨c, -, rfl⟩
        exact .inl rfl
      · exact .inr (List.mem_append_right _ hR)

/- The other references of the type remain. -/
theorem mem_references_of_mem_type
    {f : SourceFile}
    {r : Reference}
    (hR : r ∈ f.type.references) :
    r ∈ f.declaration.references := by
  unfold declaration
  cases f.marker with
  | none => exact hR
  | some value =>
      unfold TypeDecl.references at hR ⊢
      rw [List.append_assoc] at hR ⊢
      rcases List.mem_append.mp hR with hR | hR
      · refine List.mem_append_left _ ?_
        simp only [referencesIn, annotationsLayout,
          List.flatMap_cons, List.flatMap_append,
          List.map_append] at hR ⊢
        exact List.mem_append_right _ hR
      · exact List.mem_append_right _ hR

variable {f : SourceFile}
variable {known : List ClassName}
variable {t : ClassName}

------------------------------------------------------------
-- Types in Sight
------------------------------------------------------------

/- A class in sight is at the top of its file. -/
theorem InSight.nested_eq
    (hSight : f.InSight t) :
    t.nested = [] := by
  rcases hSight with ⟨c, _, rfl⟩
  rfl

/- It is in a package, and its name holds no dot. -/
theorem InSight.packaged
    (hSight : f.InSight t)
    (hPackaged : f.Packaged) :
    t.package ≠ "" ∧ '.' ∉ t.topLevel.toList := by
  rcases hSight with ⟨c, hC, rfl⟩
  rcases hPackaged c hC with ⟨hPackage, hUndotted⟩
  exact ⟨hPackage, hUndotted _ List.mem_cons_self⟩

/- There is such a class. -/
theorem InSight.mem
    (hSight : f.InSight t)
    (hSupplied : f.Supplied known) :
    t ∈ known := by
  rcases hSight with ⟨c, hC, rfl⟩
  exact hSupplied c hC

theorem inSight_className
    (f : SourceFile) :
    f.InSight f.className :=
  ⟨f.className, List.mem_cons_self, rfl⟩

/- What is imported can be told from its import line. -/
theorem mem_atHand_iff
    (hPackaged : f.Packaged) :
    t ∈ f.atHand ↔
      t = f.className ∨
        (f.OnlyInSight t ∧ ¬f.scope.Implicit t) := by
  rcases f.scope.imports_spec with ⟨-, hImports⟩
  have hRead :
      ∀ d, f.OnlyInSight d →
        ClassName.ofQualified d.canonical = d := by
    intro d hOnly
    rcases hOnly.1.packaged hPackaged with
      ⟨hPackage, hUndotted⟩
    exact ClassName.ofQualified_canonical hPackage hUndotted
      hOnly.1.nested_eq
  unfold atHand
  rw [List.mem_cons, List.mem_map]
  refine or_congr_right ⟨?_, ?_⟩
  · rintro ⟨name, hName, rfl⟩
    rcases (hImports name).mp hName with
      ⟨d, hOnly, hImplicit, rfl⟩
    rw [isOnly_iff] at hOnly
    rw [hRead d hOnly]
    exact ⟨hOnly, hImplicit⟩
  · rintro ⟨hOnly, hImplicit⟩
    refine ⟨t.canonical, ?_, hRead t hOnly⟩
    exact (hImports _).mpr
      ⟨t, (f.isOnly_iff t).mpr hOnly, hImplicit, rfl⟩

/- All classes at hand are in sight. -/
theorem inSight_of_mem_atHand
    (hPackaged : f.Packaged)
    (hMem : t ∈ f.atHand) :
    f.InSight t := by
  rcases (mem_atHand_iff hPackaged).mp hMem with
    rfl | ⟨hOnly, -⟩
  · exact f.inSight_className
  · exact hOnly.1

/- Of those with the name of an only class there is one. -/
theorem find?_atHand
    (hPackaged : f.Packaged)
    (hOnly : f.OnlyInSight t) :
    f.atHand.find? (·.topLevel == t.topLevel) =
      if t ∈ f.atHand then some t else none := by
  have hSame :
      ∀ d ∈ f.atHand, d.topLevel = t.topLevel → d = t :=
    fun d hD hName =>
      hOnly.2 d (inSight_of_mem_atHand hPackaged hD) hName
  by_cases hMem : t ∈ f.atHand
  · rw [if_pos hMem]
    cases hFound :
        f.atHand.find? (·.topLevel == t.topLevel) with
    | none =>
        have hNone := List.find?_eq_none.mp hFound t hMem
        simp at hNone
    | some d =>
        have hName := List.find?_some hFound
        rw [hSame d (List.mem_of_find?_eq_some hFound)
          (by simpa using hName)]
  · rw [if_neg hMem, List.find?_eq_none]
    intro d hD hName
    rw [hSame d hD (by simpa using hName)] at hD
    exact hMem hD

/- Others that need no import are not at hand. -/
theorem implicit_of_not_mem_atHand
    (hPackaged : f.Packaged)
    (hOnly : f.OnlyInSight t)
    (hMem : t ∉ f.atHand) :
    t.package = "java.lang" ∨ t.package = f.package := by
  have hImplicit : f.scope.Implicit t := by
    apply Classical.byContradiction
    intro hImplicit
    exact hMem ((mem_atHand_iff hPackaged).mpr
      (.inr ⟨hOnly, hImplicit⟩))
  rcases hImplicit with hNone | hSeen
  · exact absurd hNone (hOnly.1.packaged hPackaged).1
  · exact hSeen

/- A class at hand is not hidden. -/
theorem not_hides_of_mem_atHand
    (hPackaged : f.Packaged)
    (hMem : t ∈ f.atHand) :
    ¬f.Hides known t := by
  rintro ⟨hLanguage, hPackage, -⟩
  rcases (mem_atHand_iff hPackaged).mp hMem with
    rfl | ⟨-, hImplicit⟩
  · exact hPackage hLanguage
  · exact hImplicit (.inr (.inl hLanguage))

/-
  The name of an only class denotes that class, but where it
  is one of the language and hidden.
-/
theorem typeNamed_topLevel
    (hPackaged : f.Packaged)
    (hOnly : f.OnlyInSight t)
    (hKnown : t ∈ known) :
    (f.Hides known t ∧
        f.typeNamed known t.topLevel =
          some (f.className.peer t.topLevel)) ∨
      (¬f.Hides known t ∧
        f.typeNamed known t.topLevel = some t) := by
  have hTop :
      ClassName.inPackage t.package t.topLevel = t := by
    rw [ClassName.inPackage, ← hOnly.1.nested_eq]
  unfold typeNamed
  rw [find?_atHand hPackaged hOnly]
  by_cases hMem : t ∈ f.atHand
  · rw [if_pos hMem]
    exact .inr ⟨not_hides_of_mem_atHand hPackaged hMem, rfl⟩
  · rw [if_neg hMem, Option.none_or]
    by_cases hPackage : t.package = f.package
    · have hPeer : f.className.peer t.topLevel = t := by
        rw [hPackage] at hTop
        exact hTop
      refine .inr ⟨?_, by simp [hPeer, hKnown]⟩
      rintro ⟨hLanguage, hOther, -⟩
      exact hOther (hPackage ▸ hLanguage)
    · have hLanguage :=
        (implicit_of_not_mem_atHand hPackaged hOnly hMem
          ).resolve_right hPackage
      have hOther : f.package ≠ "java.lang" :=
        fun hSame => hPackage (hLanguage.trans hSame.symm)
      have hLang : ClassName.javaLang t.topLevel = t := by
        rw [hLanguage] at hTop
        exact hTop
      by_cases hBeside : f.className.peer t.topLevel ∈ known
      · exact .inl ⟨⟨hLanguage, hOther, hBeside⟩,
          by simp [hBeside]⟩
      · exact .inr ⟨fun hHides => hBeside hHides.2.2,
          by simp [hBeside, hLang, hKnown]⟩

------------------------------------------------------------
-- Names Read Back
------------------------------------------------------------

variable {r : Reference}

/- What the simple names of a class are read as. -/
theorem readName_relative
    (hUndotted : t.Undotted)
    (vars : List String) :
    f.readName known vars t.relative =
      if t.topLevel ∈ vars then none
      else
        match f.typeNamed known t.topLevel with
        | some d => some { d with nested := t.nested }
        | none =>
            ClassName.ofChain known [t.topLevel] t.nested := by
  unfold readName
  rw [ClassName.pieces_relative hUndotted]
  simp [ClassName.simpleNames, List.map_map,
    Function.comp_def]

/- What the full name of a class is read as. -/
theorem readName_canonical
    (hUndotted : t.Undotted)
    (hPackage : t.package ≠ "")
    (vars : List String) :
    f.readName known vars t.canonical =
      if t.root ∈ vars then none
      else
        match f.typeNamed known t.root with
        | some d =>
            some { d with
              nested := t.packagePath.tail ++ t.simpleNames }
        | none =>
            ClassName.ofChain known [t.root]
              (t.packagePath.tail ++ t.simpleNames) := by
  have hPieces :
      (pieces '.' t.canonical.toList).map String.ofList =
        t.root :: (t.packagePath.tail ++ t.simpleNames) := by
    rw [ClassName.pieces_canonical hUndotted, List.map_append,
      ← List.cons_append,
      ← ClassName.packagePath_eq_cons hPackage]
    simp [ClassName.packagePath, List.map_map,
      Function.comp_def]
  unfold readName
  rw [hPieces]

/- A variable takes the place of a class with its name. -/
theorem not_readsBack_of_captured
    (hUndotted : r.target.Undotted)
    (hOnly : f.OnlyInSight r.target.outermost)
    (hCaptured : r.target.topLevel ∈ r.vars) :
    ¬f.ReadsBack known r := by
  unfold ReadsBack
  rw [Scope.spell, if_pos ((f.isOnly_iff _).mpr hOnly),
    readName_relative hUndotted, if_pos hCaptured]
  exact Option.some_ne_none _ ∘ Eq.symm

/-
  A class that is written by its simple names is read back if
  no variable and no class of the package hides it.
-/
theorem readsBack_iff_of_onlyInSight
    (hPackaged : f.Packaged)
    (hSupplied : f.Supplied known)
    (hTarget : r.target ∈ f.classes)
    (hOnly : f.OnlyInSight r.target.outermost) :
    f.ReadsBack known r ↔
      r.target.topLevel ∉ r.vars ∧
        ¬f.Hides known r.target := by
  have hUndotted := (hPackaged _ hTarget).2
  by_cases hVariable : r.target.topLevel ∈ r.vars
  · exact iff_of_false
      (not_readsBack_of_captured hUndotted hOnly hVariable)
      (fun hShort => hShort.1 hVariable)
  · rw [ReadsBack, Scope.spell,
      if_pos ((f.isOnly_iff _).mpr hOnly),
      readName_relative hUndotted, if_neg hVariable,
      and_iff_right hVariable]
    have hNamed :=
      typeNamed_topLevel hPackaged hOnly
        (hSupplied _ hTarget)
    rw [ClassName.topLevel_outermost] at hNamed
    rcases hNamed with ⟨hHides, hType⟩ | ⟨hHides, hType⟩
    · rw [hType]
      refine iff_of_false ?_ (not_not_intro hHides)
      intro hSame
      have hPackage : f.package = r.target.package :=
        congrArg ClassName.package (Option.some.inj hSame)
      exact hHides.2.1 (hPackage.trans hHides.1)
    · rw [hType]
      exact iff_of_true rfl hHides

/-
  One that is written in full is read back if its package is
  taken for neither a variable nor a type.
-/
theorem readsBack_iff_of_not_onlyInSight
    (hPackaged : f.Packaged)
    (hSupplied : f.Supplied known)
    (hTarget : r.target ∈ f.classes)
    (hShared : ¬f.OnlyInSight r.target.outermost) :
    f.ReadsBack known r ↔
      r.target.root ∉ r.vars ∧
        f.typeNamed known r.target.root = none ∧
        ∀ d ∈ r.target.packageClasses, d ∉ known := by
  rcases hPackaged _ hTarget with ⟨hPackage, hUndotted⟩
  rw [ReadsBack, Scope.spell,
    if_neg (mt (f.isOnly_iff _).mp hShared),
    readName_canonical hUndotted hPackage]
  by_cases hVariable : r.target.root ∈ r.vars
  · simp [hVariable]
  · rw [if_neg hVariable, and_iff_right hVariable]
    cases hType : f.typeNamed known r.target.root with
    | none =>
        rw [and_iff_right rfl]
        apply ClassName.ofChain_eq_some_iff _
          (hSupplied _ hTarget)
        rw [List.singleton_append,
          ← ClassName.packagePath_eq_cons hPackage,
          ClassName.joinWith_packagePath hPackage]
    | some d =>
        -- A class with the packages below it is another.
        refine iff_of_false ?_ (by simp)
        intro hSame
        have hNested :=
          congrArg (·.nested.length) (Option.some.inj hSame)
        simp [ClassName.simpleNames] at hNested
        omega

/-
  A class that a file mentions is read back from what the
  file writes for it exactly if nothing is in the way.
-/
theorem readsBack_iff
    (hPackaged : f.Packaged)
    (hSupplied : f.Supplied known)
    (hTarget : r.target ∈ f.classes) :
    f.ReadsBack known r ↔ f.Clear known r := by
  by_cases hOnly : f.OnlyInSight r.target.outermost
  · rw [readsBack_iff_of_onlyInSight hPackaged hSupplied
      hTarget hOnly]
    exact ⟨fun hShort => ⟨fun _ => hShort, absurd hOnly⟩,
      fun hClear => hClear.short hOnly⟩
  · rw [readsBack_iff_of_not_onlyInSight hPackaged hSupplied
      hTarget hOnly]
    exact ⟨fun hFull => ⟨fun hIs => absurd hIs hOnly,
        fun _ => hFull⟩,
      fun hClear => hClear.full hOnly⟩

end SourceFile

------------------------------------------------------------
-- Conventions
------------------------------------------------------------

/-
  Classes and packages are named so that neither is taken
  for the other, no class of the package is named like one of
  the language, and no package is named like a variable.
-/
structure Conventional
    (package : String)
    (vars : List String)
    (known : List ClassName) :
    Prop where
  roots : ∀ c ∈ known, ∀ d ∈ known, d.topLevel ≠ c.root
  packages : ∀ c ∈ known, ∀ d ∈ c.packageClasses, d ∉ known
  language : package ≠ "java.lang" →
    ∀ c ∈ known, c.package = package →
      ClassName.javaLang c.topLevel ∉ known
  vars : ∀ c ∈ known, c.root ∉ vars

/- Whether a name begins with a capital letter. -/
def isCapitalized
    (name : String) :
    Bool :=
  name != "" && name.front.isUpper

/-
  Whether classes and variables have capital letters and
  packages have none, and no class of the package is named
  like one of the language.  Every package is looked at once.
-/
def followsConventions
    (package : String)
    (vars : List String)
    (known : List ClassName) :
    Bool :=
  known.all (isCapitalized ·.topLevel) &&
    (known.map (·.package)).eraseDups.all (fun q =>
      (pieces '.' q.toList).all fun piece =>
        !isCapitalized (String.ofList piece)) &&
    (known.filter (·.package == package)).all (fun c =>
      !known.contains (ClassName.javaLang c.topLevel)) &&
    vars.all isCapitalized

/- The classes along a chain have the names of the chain. -/
theorem ClassName.topLevel_mem_of_mem_alongChain
    {packages rest : List String}
    {d : ClassName}
    (hD : d ∈ alongChain packages rest) :
    d.topLevel ∈ rest := by
  induction rest generalizing packages with
  | nil => cases hD
  | cons name rest ih =>
      rcases List.mem_cons.mp hD with rfl | hD
      · exact List.mem_cons_self
      · exact List.mem_cons_of_mem _ (ih hD)

/- A package without capitals has none in any of its names. -/
theorem ClassName.not_isCapitalized_packagePath
    {c : ClassName}
    (hPieces :
      ∀ piece ∈ pieces '.' c.package.toList,
        isCapitalized (String.ofList piece) = false) :
    (∀ name ∈ c.packagePath, isCapitalized name = false) ∧
      isCapitalized c.root = false := by
  have hPath :
      ∀ name ∈ c.packagePath, isCapitalized name = false := by
    intro name hName
    unfold packagePath packageNames at hName
    by_cases hNone : c.package = ""
    · rw [if_pos hNone] at hName
      cases hName
    · rw [if_neg hNone] at hName
      rcases List.mem_map.mp hName with ⟨piece, hPiece, rfl⟩
      exact hPieces piece hPiece
  refine ⟨hPath, ?_⟩
  unfold root
  cases hNames : c.packagePath with
  | nil => rfl
  | cons first rest => exact hPath first (by simp [hNames])

/- Names cannot be mistaken then. -/
theorem conventional_of_followsConventions
    {package : String}
    {vars : List String}
    {known : List ClassName}
    (hFollows :
      followsConventions package vars known = true) :
    Conventional package vars known := by
  simp only [followsConventions, Bool.and_eq_true,
    List.all_eq_true] at hFollows
  rcases hFollows with
    ⟨⟨⟨hClasses, hPackages⟩, hLanguage⟩, hVariables⟩
  have hSmall :
      ∀ c ∈ known,
        (∀ name ∈ c.packagePath,
          isCapitalized name = false) ∧
          isCapitalized c.root = false := by
    intro c hC
    apply ClassName.not_isCapitalized_packagePath
    intro piece hPiece
    have hPackage :
        c.package ∈ (known.map (·.package)).eraseDups :=
      List.mem_eraseDups.mpr (List.mem_map_of_mem hC)
    simpa using hPackages _ hPackage piece hPiece
  refine ⟨?_, ?_, ?_, ?_⟩
  · intro c hC d hD hSame
    have hCapital := hClasses d hD
    rw [hSame, (hSmall c hC).2] at hCapital
    cases hCapital
  · intro c hC d hD hKnown
    have hName :=
      ClassName.topLevel_mem_of_mem_alongChain hD
    have hCapital := hClasses d hKnown
    rw [(hSmall c hC).1 _ (List.mem_of_mem_tail hName)]
      at hCapital
    cases hCapital
  · intro _ c hC hPackage hMem
    have hNone := hLanguage c
      (List.mem_filter.mpr ⟨hC, by simpa using hPackage⟩)
    simp [hMem] at hNone
  · intro c hC hMem
    have hCapital := hVariables _ hMem
    rw [(hSmall c hC).2] at hCapital
    cases hCapital

namespace SourceFile

variable {f : SourceFile}
variable {known : List ClassName}
variable {r : Reference}

/- A type that has a name has it as its simple name. -/
theorem typeNamed_eq_some
    {simple : String}
    {t : ClassName}
    (hPackaged : f.Packaged)
    (hSupplied : f.Supplied known)
    (hType : f.typeNamed known simple = some t) :
    t ∈ known ∧ t.topLevel = simple := by
  rcases Option.or_eq_some_iff.mp hType with
    hFound | ⟨-, hFound⟩
  · have hMem := List.mem_of_find?_eq_some hFound
    exact ⟨(inSight_of_mem_atHand hPackaged hMem).mem
      hSupplied, by simpa using List.find?_some hFound⟩
  · refine ⟨by simpa using List.find?_some hFound, ?_⟩
    have hMem := List.mem_of_find?_eq_some hFound
    rw [List.mem_cons, List.mem_singleton] at hMem
    rcases hMem with rfl | rfl <;> rfl

/-
  Where conventions are kept, only a variable with the simple
  name of a class can get in the way.
-/
theorem readsBack_iff_of_conventional
    {vars : List String}
    (hPackaged : f.Packaged)
    (hSupplied : f.Supplied known)
    (hConventional : Conventional f.package vars known)
    (hTarget : r.target ∈ f.classes)
    (hVariables : r.vars ⊆ vars) :
    f.ReadsBack known r ↔
      (f.OnlyInSight r.target.outermost →
        r.target.topLevel ∉ r.vars) := by
  rw [readsBack_iff hPackaged hSupplied hTarget]
  have hKnown := hSupplied _ hTarget
  constructor
  · intro hClear hOnly
    exact (hClear.short hOnly).1
  · intro hApart
    refine ⟨fun hOnly => ⟨hApart hOnly, ?_⟩, fun _ => ?_⟩
    · rintro ⟨hLanguage, hPackage, hBeside⟩
      refine hConventional.language hPackage _ hBeside rfl ?_
      have hSame :
          ClassName.javaLang r.target.topLevel =
            r.target.outermost := by
        simp [ClassName.javaLang, ClassName.inPackage,
          ClassName.outermost, hLanguage]
      change ClassName.javaLang r.target.topLevel ∈ known
      rwa [hSame]
    · refine ⟨?_, ?_,
        hConventional.packages r.target.outermost hKnown⟩
      · intro hVariable
        exact hConventional.vars r.target.outermost
          hKnown (hVariables hVariable)
      · rw [Option.eq_none_iff_forall_ne_some]
        intro t hType
        rcases typeNamed_eq_some hPackaged hSupplied hType with
          ⟨hMem, hName⟩
        exact hConventional.roots r.target.outermost hKnown
          t hMem hName

end SourceFile

end ClientGen.Java
