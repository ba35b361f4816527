import ClientGen.Client.Generate
import ClientGen.Client.Plan
import ClientGen.Proofs.Client.Declarations
import ClientGen.Proofs.Java.ImportTable

/-
  Generation checks the names of a model and then writes
  the types of the family.

  Main declarations include:
    * `Generator.prepareAll_eq`
    * `Generator.assemble_eq`
    * `SyncParts.file`
    * `generate_eq`
    * `Plan.ofService_eq`

  Every generator looks up the same names again.  Looked up
  a second time they cannot fail, so that what is left of
  all the checks are those of the first time.
-/

namespace ClientGen.Client

open ClientGen.Java ClientGen.Model

------------------------------------------------------------
-- Generators
------------------------------------------------------------

namespace Generator

/- The generator for a role, from names that are checked. -/
def ofChecked
    (s : Service)
    (names : Names)
    (advanced presigners : Option ClassName)
    (role : Role) :
    Generator where
  role
  service := s
  names
  advanced := if role.takesAdvanced then advanced else none
  presigners :=
    if role = .syncClient then presigners else none

/-
  All generators are prepared once the names of the service
  and its configured classes have been checked.
-/
theorem prepareAll_eq
    (s : Service) :
    prepareAll s = (do
      let names ← Names.ofService s
      let advanced ← names.advancedConfiguration s
      let presigners ← names.presigners s
      .ok (Role.all.map
        (ofChecked s names advanced presigners))) := by
  unfold prepareAll Role.all
  simp only [List.mapM_cons, List.mapM_nil, prepare]
  rcases Names.ofService s with e | names
  · rfl
  · rcases hAdvanced : names.advancedConfiguration s with
      e | advanced
    · simp only [Role.takesAdvanced, bind, Except.bind,
        hAdvanced]
      rfl
    · rcases hPresigners : names.presigners s with
        e | presigners
      · simp only [Role.takesAdvanced, bind, Except.bind,
          hAdvanced, hPresigners]
        rfl
      · simp only [Role.takesAdvanced, bind, Except.bind,
          hAdvanced, hPresigners]
        rfl

end Generator

------------------------------------------------------------
-- Parts of the Client
------------------------------------------------------------

namespace SyncParts

/- What is known of the parts if they are there. -/
structure Checked
    (s : Service)
    (p : SyncParts) :
    Prop where
  resolved : Strategy.resolve s.protocol s = .ok p.strategy
  advanced :
    p.strategy.names.advancedConfiguration s = .ok p.advanced
  presigners :
    p.strategy.names.presigners s = .ok p.presigners
  operations :
    p.strategy.names.operations s = .ok p.operations
  initializer : p.strategy.initializer = .ok p.initializer

variable {s : Service}
variable {p : SyncParts}

/- The parts are there exactly if all of that holds. -/
theorem ofService_eq_ok_iff :
    ofService s = .ok p ↔ Checked s p := by
  unfold ofService
  simp only [bind_eq_ok_iff]
  constructor
  · rintro ⟨t, hT, advanced, hAdvanced, presigners,
      hPresigners, operations, hOperations, initializer,
      hInitializer, hParts⟩
    cases hParts
    exact ⟨hT, hAdvanced, hPresigners, hOperations,
      hInitializer⟩
  · rintro ⟨hT, hAdvanced, hPresigners, hOperations,
      hInitializer⟩
    exact ⟨_, hT, _, hAdvanced, _, hPresigners, _,
      hOperations, _, hInitializer, rfl⟩

/- The strategy is that of the service and its protocol. -/
theorem Checked.strategy_eq
    (hParts : Checked s p) :
    Names.ofService s = .ok p.strategy.names ∧
      p.strategy =
        ⟨StrategyKind.ofProtocol s.protocol, s,
          p.strategy.names⟩ := by
  have hResolved := hParts.resolved
  unfold Strategy.resolve at hResolved
  rcases bind_eq_ok_iff.mp hResolved with
    ⟨names, hNames, hStrategy⟩
  rw [← Except.ok.inj hStrategy]
  exact ⟨hNames, rfl⟩

/- The client is bound to the service. -/
theorem Checked.service_eq
    (hParts : Checked s p) :
    p.strategy.service = s := by
  rw [hParts.strategy_eq.2]

end SyncParts

------------------------------------------------------------
-- Types
------------------------------------------------------------

/-
  A type is the plain one of its role if the parts of the
  client are there: what it checks has been checked.
-/
theorem Generator.assemble_eq
    {s : Service}
    {p : SyncParts}
    (hParts : SyncParts.Checked s p)
    (role : Role) :
    (ofChecked s p.strategy.names p.advanced p.presigners
        role).assemble p.strategy =
      .ok (role.declare p) := by
  have hService := hParts.service_eq
  unfold assemble
  cases role with
  | syncInterface =>
      simp only [ofChecked, Assembly.syncInterface_eq,
        hParts.operations, hParts.presigners, bind,
        Except.bind]
      rw [Role.declare, hService]
  | syncClient =>
      have hClient :=
        Assembly.syncClient_eq p.strategy p.advanced
          p.presigners
      rw [hService, hParts.operations,
        hParts.initializer] at hClient
      exact hClient
  | asyncInterface =>
      simp only [ofChecked, Assembly.asyncInterface_eq,
        hParts.operations]
      rfl
  | asyncClient =>
      simp only [ofChecked, Assembly.asyncClient_eq,
        hParts.operations]
      rfl
  | baseBuilder =>
      simp only [ofChecked, Assembly.baseBuilder_eq]
      rw [Role.declare, hService]
      rfl
  | syncBuilderInterface =>
      simp only [ofChecked, Assembly.builderInterface_eq]
      rfl
  | syncBuilder =>
      simp only [ofChecked, Assembly.syncBuilder_eq]
      rfl
  | asyncBuilderInterface =>
      simp only [ofChecked, Assembly.builderInterface_eq]
      rfl
  | asyncBuilder =>
      simp only [ofChecked, Role.takesAdvanced, if_true,
        Assembly.asyncBuilder_eq]
      rfl

------------------------------------------------------------
-- Files
------------------------------------------------------------

/- The file of the type in a role. -/
def SyncParts.file
    (p : SyncParts)
    (emitter : Emitter)
    (role : Role) :
    GeneratedFile :=
  let f :=
    emitter.sourceFile
      (role.className p.strategy.names).package
      (role.declare p)
  ⟨f.path, f.render⟩

/- A type is written without an error. -/
theorem Generator.generate_eq
    {s : Service}
    {p : SyncParts}
    (hParts : SyncParts.Checked s p)
    (emitter : Emitter)
    (role : Role) :
    (ofChecked s p.strategy.names p.advanced p.presigners
        role).generate p.strategy emitter =
      .ok (p.file emitter role) := by
  unfold generate
  rw [assemble_eq hParts]
  simp only [bind, Except.bind, SourceFile.source_eq]
  rfl

/- Types that can all be written are written in order. -/
theorem Generator.mapM_generate_eq
    {s : Service}
    {p : SyncParts}
    (hParts : SyncParts.Checked s p)
    (emitter : Emitter)
    (roles : List Role) :
    (roles.map (ofChecked s p.strategy.names p.advanced
        p.presigners)).mapM (generate p.strategy emitter) =
      .ok (roles.map (p.file emitter)) := by
  induction roles with
  | nil => rfl
  | cons role roles ih =>
      rw [List.map_cons, List.mapM_cons,
        generate_eq hParts, ih]
      rfl

/-
  The first two generators look at all operations and all
  exceptions, so a fault of one of them stops there.
-/
theorem Generator.mapM_generate_all
    {s : Service}
    {t : Strategy}
    {advanced presigners : Option ClassName}
    (hResolved : Strategy.resolve s.protocol s = .ok t)
    (hAdvanced :
      t.names.advancedConfiguration s = .ok advanced)
    (hPresigners : t.names.presigners s = .ok presigners)
    (emitter : Emitter) :
    (Role.all.map (ofChecked s t.names advanced
        presigners)).mapM (generate t emitter) = (do
      let operations ← t.names.operations s
      let initializer ← t.initializer
      let p : SyncParts :=
        ⟨t, advanced, presigners, operations, initializer⟩
      .ok (Role.all.map (p.file emitter))) := by
  have hService : t.service = s := by
    rcases bind_eq_ok_iff.mp hResolved with
      ⟨names, _, hStrategy⟩
    rw [← Except.ok.inj hStrategy]
  have hInterface :
      (ofChecked s t.names advanced presigners
          .syncInterface).assemble t =
        (do
          let operations ← t.names.operations s
          let presigners ← t.names.presigners s
          .ok (Client.syncInterface s t.names operations
            presigners)) :=
    Assembly.syncInterface_eq s t.names
  have hClient :
      (ofChecked s t.names advanced presigners
          .syncClient).assemble t =
        (do
          let operations ← t.names.operations s
          let initializer ← t.initializer
          .ok (SyncParts.declaration ⟨t, advanced,
            presigners, operations, initializer⟩)) := by
    rw [← hService]
    exact Assembly.syncClient_eq t advanced presigners
  have hFirst :
      ∀ rest : List Generator,
        (ofChecked s t.names advanced presigners
            .syncInterface ::
          ofChecked s t.names advanced presigners
            .syncClient :: rest).mapM (generate t emitter) =
        (do
          let interface ← generate t emitter
            (ofChecked s t.names advanced presigners
              .syncInterface)
          let client ← generate t emitter
            (ofChecked s t.names advanced presigners
              .syncClient)
          let files ← rest.mapM (generate t emitter)
          .ok (interface :: client :: files)) := by
    intro rest
    rw [List.mapM_cons, List.mapM_cons]
    rcases generate t emitter _ with fault | interface
    · rfl
    · rcases generate t emitter _ with fault | client
      · rfl
      · cases rest.mapM (generate t emitter) <;> rfl
  rcases hOperations : t.names.operations s with
    fault | operations
  · unfold Role.all
    rw [List.map_cons, List.map_cons, hFirst]
    unfold generate
    rw [hInterface, hOperations]
    rfl
  · rcases hInitializer : t.initializer with
      fault | initializer
    · unfold Role.all
      rw [List.map_cons, List.map_cons, hFirst]
      unfold generate
      rw [hInterface, hClient, hOperations, hPresigners,
        hInitializer]
      simp only [bind, Except.bind, SourceFile.source_eq]
      rfl
    · exact mapM_generate_eq
        (p := ⟨t, advanced, presigners, operations,
          initializer⟩)
        ⟨hResolved, hAdvanced, hPresigners, hOperations,
          hInitializer⟩ emitter Role.all

/-
  All files are written as soon as the parts of the client
  are there, and the first fault on the way to them is that
  of the generation.
-/
theorem generate_eq
    (s : Service)
    (emitter : Emitter) :
    generate s emitter =
      (SyncParts.ofService s).map fun p =>
        Role.all.map (p.file emitter) := by
  unfold generate SyncParts.ofService
  rw [Generator.prepareAll_eq]
  rcases hResolved : Strategy.resolve s.protocol s with
    fault | t
  · rfl
  · have hNames : Names.ofService s = .ok t.names := by
      rcases bind_eq_ok_iff.mp hResolved with
        ⟨names, hNames, hStrategy⟩
      rw [hNames, ← Except.ok.inj hStrategy]
    rw [hNames]
    simp only [bind, Except.bind]
    rcases hAdvanced : t.names.advancedConfiguration s with
      fault | advanced
    · rfl
    · rcases hPresigners : t.names.presigners s with
        fault | presigners
      · rfl
      · have hAll :=
          Generator.mapM_generate_all hResolved hAdvanced
            hPresigners emitter
        refine Eq.trans hAll ?_
        rcases t.names.operations s with fault | operations
        · rfl
        · rcases t.initializer with fault | initializer <;>
            rfl

------------------------------------------------------------
-- Plans
------------------------------------------------------------

/-
  A plan names all types of the family once the names of the
  service and its configured classes have been checked.
-/
theorem Plan.ofService_eq
    (s : Service) :
    Plan.ofService s = (do
      let names ← Names.ofService s
      let _ ← names.advancedConfiguration s
      let _ ← names.presigners s
      .ok {
        service := s.metadata.serviceName
        protocol := s.protocol
        strategy := StrategyKind.ofProtocol s.protocol
        types := Role.all.map (Role.className names) }) := by
  unfold Plan.ofService Strategy.resolve
  rw [Generator.prepareAll_eq]
  rcases Names.ofService s with fault | names
  · rfl
  · simp only [bind, Except.bind]
    rcases names.advancedConfiguration s with
      fault | advanced
    · rfl
    · cases names.presigners s <;> rfl

end ClientGen.Client
