import ClientGen.Files.Path
import ClientGen.Proofs.Client.Generation
import ClientGen.Proofs.Text.Pieces

/-
  Where the generated files lie.

  Main declarations include:
    * `Role.simpleName_injective`
    * `SyncParts.path_file`
    * `StaysBelow`
    * `sourcePath_injective`
    * `generate_paths`

  All types are in the package of the clients and have names
  made of that of the service, some letters before it and
  some after it.  How many letters there are and which is
  the last tells the types apart.
-/

namespace ClientGen.Client

open ClientGen.Files ClientGen.Java ClientGen.Model
open ClientGen.Text

------------------------------------------------------------
-- Names of Types
------------------------------------------------------------

/- What stands before and after the name of the service. -/
def Role.affixes : Role → String × String
  | .syncInterface => ("", "Client")
  | .syncClient => ("Default", "Client")
  | .asyncInterface => ("", "AsyncClient")
  | .asyncClient => ("Default", "AsyncClient")
  | .baseBuilder => ("Default", "BaseClientBuilder")
  | .syncBuilderInterface => ("", "ClientBuilder")
  | .syncBuilder => ("Default", "ClientBuilder")
  | .asyncBuilderInterface => ("", "AsyncClientBuilder")
  | .asyncBuilder => ("Default", "AsyncClientBuilder")

/- The simple name of the type in a role. -/
def Role.simpleName
    (n : Names)
    (role : Role) :
    String :=
  role.affixes.1 ++ n.service.text ++ role.affixes.2

/- Every type is beside the clients. -/
theorem Role.className_eq
    (n : Names)
    (role : Role) :
    role.className n =
      ClassName.inPackage n.package.text
        (role.simpleName n) := by
  cases role <;> rfl

/- A declaration has the simple name of its type. -/
theorem Role.name_declare
    (p : SyncParts)
    (role : Role) :
    (role.declare p).name =
      role.simpleName p.strategy.names := by
  cases role <;> rfl

/- How many letters are added, and which is the last. -/
def Role.shape : Role → Nat × Char
  | .syncInterface => (6, 't')
  | .syncClient => (13, 't')
  | .asyncInterface => (11, 't')
  | .asyncClient => (18, 't')
  | .baseBuilder => (24, 'r')
  | .syncBuilderInterface => (13, 'r')
  | .syncBuilder => (20, 'r')
  | .asyncBuilderInterface => (18, 'r')
  | .asyncBuilder => (25, 'r')

/- That is the shape of what is added. -/
theorem Role.shape_affixes
    (role : Role) :
    role.affixes.1.toList.length +
          role.affixes.2.toList.length = role.shape.1 ∧
      role.affixes.2.toList.getLast? =
        some role.shape.2 := by
  cases role <;> decide

/- No two roles add letters of the same shape. -/
theorem Role.shape_injective
    {role other : Role}
    (hShape : role.shape = other.shape) :
    role = other := by
  cases role <;> cases other <;>
    first
    | rfl
    | simp [shape] at hShape

/- The simple names of a family are distinct. -/
theorem Role.simpleName_injective
    {n : Names}
    {role other : Role}
    (hNames : role.simpleName n = other.simpleName n) :
    role = other := by
  rcases role.shape_affixes with ⟨hLength, hLast⟩
  rcases other.shape_affixes with ⟨hOtherLength, hOtherLast⟩
  have hChars := congrArg String.toList hNames
  simp only [simpleName, String.toList_append] at hChars
  apply shape_injective
  apply Prod.ext
  · have hLengths := congrArg List.length hChars
    simp only [List.length_append] at hLengths
    omega
  · have hEnds := congrArg List.getLast? hChars
    simpa [List.getLast?_append, hLast, hOtherLast]
      using hEnds

/- The characters of a simple name are those of identifiers. -/
theorem Role.simpleName_isIdentifierPart
    (n : Names)
    (role : Role) :
    ∀ c ∈ (role.simpleName n).toList,
      isIdentifierPart c = true := by
  intro c hC
  have hAffixes :
      role.affixes.1.toList.all isIdentifierPart = true ∧
        role.affixes.2.toList.all isIdentifierPart =
          true := by
    cases role <;> decide
  rw [List.all_eq_true, List.all_eq_true] at hAffixes
  simp only [simpleName, String.toList_append,
    List.mem_append] at hC
  rcases hC with (hC | hC) | hC
  · exact hAffixes.1 c hC
  · exact (all_isIdentifierPart n.service.valid).2 c hC
  · exact hAffixes.2 c hC

------------------------------------------------------------
-- Paths
------------------------------------------------------------

/- Where the file of a class lies: below its package. -/
def sourcePath
    (c : ClassName) :
    String :=
  String.ofList (c.package.toList.map (replaceChar '.' '/')) ++
    "/" ++ c.simple ++ ".java"

/- A file of a package lies in the package's directory. -/
theorem path_sourceFile
    {f : SourceFile}
    (hPackage : f.package ≠ "") :
    f.path =
      sourcePath (ClassName.inPackage f.package f.type.name) := by
  have hDirectory :
      joinWith "/"
          ((pieces '.' f.package.toList).map String.ofList) =
        String.ofList
          (f.package.toList.map (replaceChar '.' '/')) := by
    apply String.toList_injective
    rw [String.toList_ofList]
    exact toList_joinWith_pieces '/' f.package.toList
  unfold SourceFile.path sourcePath
  simp only [if_neg hPackage, hDirectory]
  rfl

/- A file of the family lies where its type belongs. -/
theorem SyncParts.path_file
    (p : SyncParts)
    (emitter : Emitter)
    (role : Role) :
    (p.file emitter role).path =
      sourcePath (role.className p.strategy.names) := by
  have hPackage : p.strategy.names.package.text ≠ "" := by
    intro hEmpty
    have hValid := p.strategy.names.package.valid
    rw [hEmpty] at hValid
    exact absurd hValid (by decide)
  have hFile :
      (p.file emitter role).path =
        sourcePath (ClassName.inPackage
          p.strategy.names.package.text
          (role.declare p).name) := by
    unfold file
    rw [Role.className_eq]
    exact path_sourceFile hPackage
  rw [hFile, Role.name_declare, Role.className_eq]

/-
  A path stays below the directory it starts from: it does
  not start at the root, its directories are identifiers,
  and no name on it is empty or leads up.
-/
structure StaysBelow (path : String) : Prop where
  relative : Path.isAbsolute path = false
  directories :
    ∃ directories file,
      Path.names path = directories ++ [file] ∧
        directories ≠ [] ∧
        ∀ d ∈ directories, isIdentifier d = true
  names :
    ∀ name ∈ Path.names path,
      name ≠ "" ∧ name ≠ "." ∧ name ≠ ".."

/- A package has no slashes in its name. -/
theorem slash_not_mem_package
    (n : PackageName) :
    '/' ∉ n.text.toList := by
  intro hMem
  have hPieces :
      '/' = '.' ∨
        ∃ piece ∈ pieces '.' n.text.toList,
          '/' ∈ piece :=
    mem_pieces hMem
  rcases hPieces with hDot | ⟨piece, hPiece, hIn⟩
  · exact absurd hDot (by decide)
  · have hPart :=
      (all_isIdentifierPart
        (pieces_isIdentifier n.valid hPiece)).2 '/'
        (by simpa using hIn)
    exact absurd hPart (by decide)

/- The names on the path of a generated file. -/
theorem names_sourcePath
    (n : Names)
    (role : Role) :
    Path.names (sourcePath (role.className n)) =
      (pieces '.' n.package.text.toList).map String.ofList ++
        [role.simpleName n ++ ".java"] := by
  have hFile : '/' ∉ (role.simpleName n ++ ".java").toList := by
    intro hMem
    rw [String.toList_append, List.mem_append] at hMem
    rcases hMem with hMem | hMem
    · exact absurd
        (role.simpleName_isIdentifierPart n '/' hMem)
        (by decide)
    · exact absurd hMem (by decide)
  have hChars :
      (sourcePath (role.className n)).toList =
        n.package.text.toList.map (replaceChar '.' '/') ++
          '/' :: (role.simpleName n ++ ".java").toList := by
    rw [Role.className_eq]
    simp [sourcePath, ClassName.inPackage, ClassName.simple]
  unfold Path.names
  rw [hChars, pieces_append_cons,
    pieces_map_replace (slash_not_mem_package n.package),
    pieces_eq_singleton hFile]
  simp

/- An identifier is a name that leads to itself. -/
theorem ne_dots_of_isIdentifier
    {name : String}
    (hName : isIdentifier name = true) :
    name ≠ "" ∧ name ≠ "." ∧ name ≠ ".." := by
  refine ⟨(all_isIdentifierPart hName).1, ?_, ?_⟩
  · rintro rfl
    exact absurd hName (by decide)
  · rintro rfl
    exact absurd hName (by decide)

/- So is the name of a source file. -/
theorem ne_dots_of_java
    (simple : String) :
    simple ++ ".java" ≠ "" ∧ simple ++ ".java" ≠ "." ∧
      simple ++ ".java" ≠ ".." := by
  have hShort :
      ∀ name : String, name.toList.length < 5 →
        simple ++ ".java" ≠ name := by
    rintro name hLength rfl
    rw [String.toList_append, List.length_append] at hLength
    have hEnding : ".java".toList.length = 5 := rfl
    omega
  exact ⟨hShort "" (by decide), hShort "." (by decide),
    hShort ".." (by decide)⟩

/- A path without empty names starts with a name. -/
theorem isAbsolute_eq_false
    {path : String}
    (hNames : ∀ name ∈ Path.names path, name ≠ "") :
    Path.isAbsolute path = false := by
  unfold Path.isAbsolute
  unfold Path.names at hNames
  cases hChars : path.toList with
  | nil => rfl
  | cons c rest =>
      have hC : c ≠ '/' := by
        rintro rfl
        rw [hChars, pieces_separator_cons] at hNames
        exact hNames "" (by simp) rfl
      simpa using hC

/- The path of a generated file stays below its start. -/
theorem staysBelow_sourcePath
    (n : Names)
    (role : Role) :
    StaysBelow (sourcePath (role.className n)) := by
  have hDirectories :
      ∀ d ∈ (pieces '.' n.package.text.toList).map
          String.ofList, isIdentifier d = true := by
    intro d hD
    rcases List.mem_map.mp hD with ⟨piece, hPiece, rfl⟩
    exact pieces_isIdentifier n.package.valid hPiece
  have hNames :
      ∀ name ∈ Path.names (sourcePath (role.className n)),
        name ≠ "" ∧ name ≠ "." ∧ name ≠ ".." := by
    intro name hName
    rw [names_sourcePath, List.mem_append,
      List.mem_singleton] at hName
    rcases hName with hName | rfl
    · exact ne_dots_of_isIdentifier
        (hDirectories name hName)
    · exact ne_dots_of_java _
  refine ⟨?_, ⟨_, _, names_sourcePath n role, ?_,
    hDirectories⟩, hNames⟩
  · exact isAbsolute_eq_false
      fun name hName => (hNames name hName).1
  · simpa using pieces_ne_nil n.package.text.toList

/- The paths of a family are distinct. -/
theorem sourcePath_injective
    {n : Names}
    {role other : Role}
    (hPaths :
      sourcePath (role.className n) =
        sourcePath (other.className n)) :
    role = other := by
  rw [Role.className_eq, Role.className_eq] at hPaths
  simp only [sourcePath, ClassName.inPackage,
    ClassName.simple, List.getLastD_nil] at hPaths
  have hChars := congrArg String.toList hPaths
  simp only [String.toList_append, List.append_assoc,
    List.append_cancel_left_eq] at hChars
  apply Role.simpleName_injective (n := n)
  apply String.toList_injective
  exact List.append_cancel_right hChars

/- Below one directory they stay distinct. -/
theorem join_injective
    {output path other : String}
    (hPath : Path.isAbsolute path = false)
    (hOther : Path.isAbsolute other = false)
    (hJoined :
      Path.join output path = Path.join output other) :
    path = other := by
  unfold Path.join at hJoined
  simp only [hPath, hOther, Bool.false_or] at hJoined
  by_cases hOutput : output = ""
  · simpa [hOutput] using hJoined
  · by_cases hEnd : output.toList.getLast? = some '/'
    · simpa [hOutput, hEnd] using hJoined
    · simpa [hOutput, hEnd] using hJoined

------------------------------------------------------------
-- Generated Files
------------------------------------------------------------

/- With the parts of the client there is a plan. -/
theorem SyncParts.Checked.exists_plan
    {s : Service}
    {p : SyncParts}
    (hParts : Checked s p) :
    ∃ plan, Plan.ofService s = .ok plan ∧
      plan.types =
        Role.all.map (Role.className p.strategy.names) := by
  rw [Plan.ofService_eq, hParts.strategy_eq.1]
  simp only [bind, Except.bind, hParts.advanced,
    hParts.presigners]
  exact ⟨_, rfl, rfl⟩

/- Without a plan there are no parts, for the same fault. -/
theorem SyncParts.ofService_eq_error
    {s : Service}
    {e : GenerationError}
    (hPlan : Plan.ofService s = .error e) :
    ofService s = .error e := by
  rw [Plan.ofService_eq] at hPlan
  unfold ofService Strategy.resolve
  rcases hNames : Names.ofService s with fault | names
  · rw [hNames] at hPlan
    cases hPlan
    rfl
  · rw [hNames] at hPlan
    simp only [bind, Except.bind] at hPlan ⊢
    rcases hAdvanced : names.advancedConfiguration s with
      fault | advanced
    · rw [hAdvanced] at hPlan
      cases hPlan
      rfl
    · rw [hAdvanced] at hPlan
      rcases hPresigners : names.presigners s with
        fault | presigners
      · rw [hPresigners] at hPlan
        cases hPlan
        rfl
      · rw [hPresigners] at hPlan
        cases hPlan

/- What tells any two roles apart has no repeats. -/
theorem Role.nodup_map_all
    {f : Role → String}
    (hDistinct : ∀ role other, f role = f other → role = other) :
    (Role.all.map f).Nodup := by
  have hAll : Role.all.Nodup := by decide
  rw [List.Nodup, List.pairwise_map]
  exact hAll.imp fun hNe hEq => hNe (hDistinct _ _ hEq)

/-
  Generated files lie where the plan for their service says:
  each in the directory of its package, under the name of
  its type, below the output and apart from all others.  A
  service without a plan has no files either.
-/
theorem generate_paths
    (s : Service)
    (emitter : Emitter) :
    (∀ files, generate s emitter = .ok files →
      ∃ plan, Plan.ofService s = .ok plan ∧
        plan.types.length = 9 ∧ files.length = 9 ∧
        files.map GeneratedFile.path =
          plan.types.map sourcePath ∧
        (files.map GeneratedFile.path).Nodup ∧
        (∀ file ∈ files, StaysBelow file.path) ∧
        ∀ output, (files.map fun file =>
          Path.join output file.path).Nodup) ∧
      ∀ e, Plan.ofService s = .error e →
        generate s emitter = .error e := by
  rw [generate_eq]
  constructor
  · intro files hFiles
    cases hParts : SyncParts.ofService s with
    | error e =>
        rw [hParts] at hFiles
        cases hFiles
    | ok p =>
        rw [hParts] at hFiles
        have hRoles : files = Role.all.map (p.file emitter) :=
          (Except.ok.inj hFiles).symm
        have hBelow :
            ∀ role, StaysBelow (p.file emitter role).path := by
          intro role
          rw [p.path_file]
          exact staysBelow_sourcePath p.strategy.names role
        have hDistinct :
            ∀ role other,
              (p.file emitter role).path =
                (p.file emitter other).path →
              role = other := by
          intro role other hPaths
          rw [p.path_file, p.path_file] at hPaths
          exact sourcePath_injective hPaths
        rcases
            (SyncParts.ofService_eq_ok_iff.mp hParts
              ).exists_plan with
          ⟨plan, hPlan, hTypes⟩
        subst hRoles
        refine ⟨plan, hPlan, ?_, rfl, ?_, ?_, ?_, ?_⟩
        · rw [hTypes]
          rfl
        · rw [hTypes, List.map_map, List.map_map]
          apply List.map_congr_left
          intro role _
          exact p.path_file emitter role
        · rw [List.map_map]
          exact Role.nodup_map_all hDistinct
        · intro file hFile
          rcases List.mem_map.mp hFile with ⟨role, _, rfl⟩
          exact hBelow role
        · intro output
          rw [List.map_map]
          apply Role.nodup_map_all
          intro role other hJoined
          apply hDistinct
          exact join_injective (hBelow role).relative
            (hBelow other).relative hJoined
  · intro e hPlan
    rw [SyncParts.ofService_eq_error hPlan]
    rfl

end ClientGen.Client
