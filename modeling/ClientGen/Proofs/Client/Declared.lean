import ClientGen.Proofs.Client.CheckedNames
import ClientGen.Proofs.Client.Requirements

/-
  The types that are declared for a service, and the files
  they are written to.

  Main declarations include:
    * `declared`
    * `Family`
    * `SyncParts.Checked.declared_eq`
    * `declared_syncClient_eq`
    * `exists_parts_of_generate`
    * `bookshop`

  Whenever files are generated there is a family: a type in
  every role, and a file for each of them.
-/

namespace ClientGen.Client

open ClientGen.Java ClientGen.Model

------------------------------------------------------------
-- Families
------------------------------------------------------------

/- The type in a role as it is declared for a service. -/
def declared
    (s : Service)
    (role : Role) :
    Except GenerationError TypeDecl := do
  let t ← Strategy.resolve s.protocol s
  role.declaration t

/- The file of a type in a package, as it is written. -/
def Emitter.write
    (e : Emitter)
    (package : String)
    (type : TypeDecl) :
    Except CodeError GeneratedFile := do
  let f := e.sourceFile package type
  let source ← f.source
  .ok ⟨f.path, source⟩

/-
  A type for each role of a service, and the files that the
  types are written to in the package of its clients.
-/
structure Family
    (s : Service)
    (emitter : Emitter)
    (files : List GeneratedFile)
    (declare : Role → TypeDecl) :
    Prop where
  declared : ∀ role, declared s role = .ok (declare role)
  written :
    (Role.all.map declare).mapM
        (emitter.write s.metadata.clientPackageName) =
      .ok files

------------------------------------------------------------
-- Declared Types
------------------------------------------------------------

/- A generator needs only what has been checked. -/
theorem Generator.prepare_eq
    {s : Service}
    {p : SyncParts}
    (hParts : SyncParts.Checked s p)
    (role : Role) :
    prepare s role =
      .ok (ofChecked s p.strategy.names p.advanced
        p.presigners role) := by
  unfold prepare
  rw [hParts.strategy_eq.1]
  cases role <;>
    simp only [Role.takesAdvanced, bind, Except.bind,
      hParts.advanced, hParts.presigners] <;>
    rfl

/- With the parts of the client every type is declared. -/
theorem SyncParts.Checked.declared_eq
    {s : Service}
    {p : SyncParts}
    (hParts : Checked s p)
    (role : Role) :
    declared s role = .ok (role.declare p) := by
  unfold declared Role.declaration
  rw [hParts.resolved]
  simp only [bind, Except.bind]
  rw [hParts.service_eq, Generator.prepare_eq hParts]
  exact Generator.assemble_eq hParts role

/-
  The client is declared exactly if its parts are there, and
  what keeps them from being there is reported.
-/
theorem declared_syncClient_eq
    (s : Service) :
    declared s .syncClient =
      (SyncParts.ofService s).map SyncParts.declaration := by
  unfold declared SyncParts.ofService
  rcases hResolved : Strategy.resolve s.protocol s with
    fault | t
  · rfl
  · rcases bind_eq_ok_iff.mp hResolved with
      ⟨names, hNames, hStrategy⟩
    cases hStrategy
    unfold Role.declaration Generator.prepare
    simp only [bind, Except.bind, hNames, Role.takesAdvanced]
    rcases hAdvanced : names.advancedConfiguration s with
      fault | advanced
    · rfl
    · rcases hPresigners : names.presigners s with
        fault | presigners
      · rfl
      · have hClient :=
          Assembly.syncClient_eq
            ⟨StrategyKind.ofProtocol s.protocol, s, names⟩
            advanced presigners
        refine Eq.trans hClient ?_
        simp only [bind, Except.bind]
        rcases names.operations s with fault | operations
        · rfl
        · rcases Strategy.initializer _ with
            fault | initializer <;> rfl

------------------------------------------------------------
-- Written Files
------------------------------------------------------------

/- Every type can be written. -/
theorem Emitter.write_eq
    (e : Emitter)
    (package : String)
    (type : TypeDecl) :
    e.write package type =
      .ok ⟨(e.sourceFile package type).path,
        (e.sourceFile package type).render⟩ := by
  simp only [write, SourceFile.source_eq]
  rfl

/- So can every list of types. -/
theorem Emitter.mapM_write_eq
    (e : Emitter)
    (package : String)
    (types : List TypeDecl) :
    types.mapM (e.write package) =
      .ok (types.map fun type =>
        ⟨(e.sourceFile package type).path,
          (e.sourceFile package type).render⟩) := by
  induction types with
  | nil => rfl
  | cons type types ih =>
      rw [List.mapM_cons, write_eq, ih]
      rfl

/- The package of the clients is that of the model. -/
theorem Names.package_eq
    {s : Service}
    {n : Names}
    (hNames : ofService s = .ok n) :
    n.package.text = s.metadata.clientPackageName :=
  (ofService_eq_ok_iff.mp hNames).2.1

/- So are the packages below it. -/
theorem Names.modelClass_eq
    {s : Service}
    {n : Names}
    (hNames : ofService s = .ok n)
    (simple : String) :
    n.modelClass simple =
      ClassName.inPackage s.metadata.modelPackage simple := by
  unfold modelClass classBelow
  rw [package_eq hNames]
  rfl

theorem Names.transformClass_eq
    {s : Service}
    {n : Names}
    (hNames : ofService s = .ok n)
    (simple : String) :
    n.transformClass simple =
      ClassName.inPackage s.metadata.transformPackage
        simple := by
  unfold transformClass classBelow
  rw [package_eq hNames]
  rfl

/- The types that the parts declare make a family. -/
theorem SyncParts.Checked.family
    {s : Service}
    {p : SyncParts}
    (hParts : Checked s p)
    (emitter : Emitter) :
    Family s emitter (Role.all.map (p.file emitter))
      (Role.declare p) where
  declared := hParts.declared_eq
  written := by
    rw [Emitter.mapM_write_eq, List.map_map,
      ← Names.package_eq hParts.strategy_eq.1]
    rfl

/- No role is left out. -/
theorem Role.mem_all
    (role : Role) :
    role ∈ all := by
  cases role <;> decide

/- The files that are written are those of the roles. -/
theorem Family.files_eq
    {s : Service}
    {emitter : Emitter}
    {files : List GeneratedFile}
    {declare : Role → TypeDecl}
    (hFamily : Family s emitter files declare) :
    files =
      Role.all.map fun role =>
        let f := emitter.sourceFile
          s.metadata.clientPackageName (declare role)
        ⟨f.path, f.render⟩ := by
  have hWritten := hFamily.written
  rw [Emitter.mapM_write_eq] at hWritten
  cases hWritten
  rw [List.map_map]
  rfl

/- The file of every role is among them. -/
theorem Family.mem_files
    {s : Service}
    {emitter : Emitter}
    {files : List GeneratedFile}
    {declare : Role → TypeDecl}
    (hFamily : Family s emitter files declare)
    (role : Role) :
    let f := emitter.sourceFile
      s.metadata.clientPackageName (declare role)
    ⟨f.path, f.render⟩ ∈ files := by
  rw [hFamily.files_eq]
  exact List.mem_map_of_mem role.mem_all

/- An operation of the service is one of the client's. -/
theorem SyncParts.Checked.exists_types
    {s : Service}
    {p : SyncParts}
    (hParts : Checked s p)
    {o : Operation}
    (hOperation : o ∈ s.operations.values) :
    ∃ types ∈ p.operations,
      types.Matches p.strategy.names o := by
  rcases exists_mem_of_mapM hParts.operations hOperation with
    ⟨types, hMem, hTypes⟩
  exact ⟨types, hMem, Names.matches_of_operation hTypes⟩

/- Where files are generated the parts of the client are. -/
theorem exists_parts_of_generate
    {s : Service}
    {emitter : Emitter}
    {files : List GeneratedFile}
    (hFiles : generate s emitter = .ok files) :
    ∃ p, SyncParts.Checked s p ∧
      Family s emitter files (Role.declare p) := by
  rw [generate_eq] at hFiles
  cases hParts : SyncParts.ofService s with
  | error e =>
      rw [hParts] at hFiles
      cases hFiles
  | ok p =>
      rw [hParts] at hFiles
      cases hFiles
      have hChecked := SyncParts.ofService_eq_ok_iff.mp hParts
      exact ⟨p, hChecked, hChecked.family emitter⟩

------------------------------------------------------------
-- A Service
------------------------------------------------------------

/-
  A service that makes use of all that is optional: waiters
  and presigners, a configuration class, and exceptions with
  and without a code, among shapes that are none.
-/
def bookshop : Service where
  metadata :=
    Metadata.named "Bookshop" "com.example.bookshop" .json
  customization :=
    { Customization.none with
      clientConfigClass := some "com.example.BookConfiguration"
      presignersClass := some "BookPresigners" }
  operations :=
    OrderedMap.ofList
      [("Order", Operation.named "Order"),
        ("Cancel", Operation.named "Cancel")]
  shapes :=
    OrderedMap.ofList
      [("SoldOut",
        { Shape.named "SoldOut" .exception with
          errorCode := some "Stock\"Empty\"" }),
        ("Book", Shape.named "Book" .model),
        ("LateOrder", Shape.named "LateOrder" .exception)]
  hasWaiters := true

/- Its clients are generated. -/
theorem exists_generate_bookshop
    (emitter : Emitter) :
    ∃ files, generate bookshop emitter = .ok files :=
  (checks_generate bookshop emitter).exists_ok_iff.mpr
    (by decide)

end ClientGen.Client
