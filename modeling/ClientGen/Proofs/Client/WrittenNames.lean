import ClientGen.Proofs.Client.LexicalSafety
import ClientGen.Proofs.Java.Scoping

/-
  The class names in the files of a family, read back.

  Main declarations include:
    * `typeVariableNames`
    * `mem_mentions_baseBuilder`
    * `Role.captured`
    * `onlyInSight_configuration`
    * `generate_namesReadBack`
    * `exists_misread_configuration`

  Type variables are declared by the builder that others
  extend and by the method for dry runs.  The classes written
  there are known, but for the configuration of the service,
  which may have the name of a variable.
-/

namespace ClientGen.Client

open ClientGen.Java ClientGen.Java.Code ClientGen.Model

------------------------------------------------------------
-- Type Variables
------------------------------------------------------------

/- The type variables of the builder. -/
def builderVariableNames :
    List String :=
  variableNames [builderVariable, clientVariable]

/- All names of type variables in a family. -/
def typeVariableNames :
    List String :=
  builderVariableNames ++ ["X"]

/- None of the classes is named like a type variable. -/
def areApart
    (classes : List ClassName) :
    Bool :=
  classes.all fun c => !typeVariableNames.contains c.topLevel

/- So a variable is not the name of one of them. -/
theorem topLevel_not_mem_of_areApart
    {classes : List ClassName}
    {c : ClassName}
    (hApart : areApart classes = true)
    (hC : c ∈ classes) :
    c.topLevel ∉ typeVariableNames := by
  have hNone := List.all_eq_true.mp hApart c hC
  simpa using hNone

------------------------------------------------------------
-- Dry Runs
------------------------------------------------------------

/- Dry runs refer to classes of the kit and two others. -/
theorem areApart_dryRun
    (n : Names) :
    areApart (DryRun.method n).mentions = true := by
  unfold DryRun.method Method.mentions
  rw [Code.mentions_ofParts]
  rfl

/- Only their method declares variables in a client. -/
theorem typeVariables_syncClient
    {p : SyncParts}
    (hInitializer : p.strategy.initializer = .ok p.initializer) :
    ∀ m ∈ p.methods,
      m.typeVariables = [] ∨
        m = DryRun.method p.strategy.names := by
  have hConstructors :
      ∀ m ∈ p.constructors, m.typeVariables = [] := by
    unfold SyncParts.constructors clientConstructors
    cases p.advanced <;> simp [protectedConstructor]
  have hHelper :
      ∀ m ∈ p.strategy.helper, m.typeVariables = [] := by
    unfold Strategy.helper
    cases p.strategy.factory? <;> simp [Factory.helper]
  have hInit : p.initializer.typeVariables = [] := by
    rcases Strategy.initializer_cases hInitializer with
      ⟨factory, settings, _, _, hMethod⟩ |
        ⟨exceptions, _, _, hMethod⟩ <;>
      rw [hMethod] <;>
      rfl
  have hWaiters :
      ∀ m ∈ (if p.strategy.service.hasWaiters then
          [lazyWaiters p.strategy.names.waiters]
          else []),
        m.typeVariables = [] := by
    cases p.strategy.service.hasWaiters <;>
      simp [lazyWaiters, implemented]
  have hAdditional :
      ∀ m ∈ p.strategy.additional,
        m = DryRun.method p.strategy.names := by
    unfold Strategy.additional
    cases p.strategy.kind <;> simp
  intro m hM
  simp only [SyncParts.methods, List.mem_append,
    List.mem_singleton, List.mem_map, Option.mem_toList]
    at hM
  rcases hM with
    ((((((hM | ⟨types, _, rfl⟩) | hM) | rfl) | hM) |
      ⟨c, _, rfl⟩) | rfl) | hM
  · exact .inl (hConstructors m hM)
  · exact .inl rfl
  · exact .inl (hHelper m hM)
  · exact .inl hInit
  · exact .inl (hWaiters m hM)
  · exact .inl rfl
  · exact .inl rfl
  · exact .inr (hAdditional m hM)

------------------------------------------------------------
-- The Base Builder
------------------------------------------------------------

/- What an overriding method of a builder refers to. -/
theorem mentions_finalOverride
    (name : String)
    (returned : TypeName)
    (body : List Part) :
    (finalOverride name returned body).mentions =
      ClassName.javaLang "Override" ::
        (returned.mentions ++ body.flatMap Part.mentions) := by
  simp [finalOverride, finalMethod, Method.mentions,
    Code.mentions_ofParts, Annotation.overriding,
    Annotation.marker, Annotation.mentions,
    TypeName.mentionsAll]

/- The defaults of a service are made with the kit alone. -/
theorem areApart_serviceDefaults
    (m : Metadata)
    (n : Names) :
    areApart (serviceDefaults m n).mentions = true := by
  unfold serviceDefaults
  rw [mentions_finalOverride]
  unfold securityDefaults signer
  cases m.signatureVersion <;> rfl

/- So are the other methods that every builder has. -/
theorem areApart_endpointPrefix
    (m : Metadata) :
    areApart (endpointPrefix m).mentions = true := by
  unfold endpointPrefix
  rw [mentions_finalOverride]
  rfl

theorem areApart_httpConfig
    (expression : String) :
    areApart (httpConfig expression).mentions = true := by
  unfold httpConfig
  rw [mentions_finalOverride]
  rfl

/- The methods that set and get it refer to nothing else. -/
theorem mem_mentions_configurationMethods
    {advanced c : ClassName}
    {m : Method}
    (hM : m ∈ configurationMethods advanced)
    (hC : c ∈ m.mentions) :
    c = advanced := by
  simp only [configurationMethods, List.mem_cons,
    List.not_mem_nil, or_false] at hM
  rcases hM with rfl | rfl <;>
    simpa [Method.mentions, Code.mentions_ofParts, finalMethod,
      advancedParameter, Parameter.plain, builderVariable,
      statement, TypeName.mentions, TypeName.mentionsAll]
      using hC

/-
  The builder refers to the configuration of the service, and
  otherwise to classes that are not named like variables.
-/
theorem mem_mentions_baseBuilder
    {s : Service}
    {n : Names}
    {advanced : Option ClassName}
    {c : ClassName}
    (hC : c ∈ (baseBuilder s n advanced).mentions) :
    c ∈ advanced ∨ c.topLevel ∉ typeVariableNames := by
  simp only [TypeDecl.mentions, List.mem_append] at hC
  rcases hC with
    ((((hHead | hHead) | hHead) | hHead) | hField) | hMethod
  · exact .inr (topLevel_not_mem_of_areApart rfl hHead)
  · exact .inr (topLevel_not_mem_of_areApart rfl hHead)
  · exact .inr (topLevel_not_mem_of_areApart rfl hHead)
  · exact .inr (topLevel_not_mem_of_areApart rfl hHead)
  · left
    cases advanced with
    | none => cases hField
    | some advanced =>
        simpa [baseBuilder, Field.mentions, Field.plain,
          TypeName.mentions, eq_comm] using hField
  · rcases List.mem_flatMap.mp hMethod with ⟨m, hM, hC⟩
    simp only [baseBuilder, List.mem_append, List.mem_cons,
      List.not_mem_nil, or_false, List.mem_map,
      Option.mem_toList] at hM
    rcases hM with
      ((rfl | rfl) | ⟨expression, _, rfl⟩) | hConfiguration
    · exact .inr (topLevel_not_mem_of_areApart
        (areApart_endpointPrefix s.metadata) hC)
    · exact .inr (topLevel_not_mem_of_areApart
        (areApart_serviceDefaults s.metadata n) hC)
    · exact .inr (topLevel_not_mem_of_areApart
        (areApart_httpConfig expression) hC)
    · cases advanced with
      | none => cases hConfiguration
      | some advanced =>
          rw [mem_mentions_configurationMethods
            hConfiguration hC]
          exact .inl rfl

/- Its methods declare no variables of their own. -/
theorem typeVariables_baseBuilder
    {s : Service}
    {n : Names}
    {advanced : Option ClassName} :
    ∀ m ∈ (baseBuilder s n advanced).methods,
      m.typeVariables = [] := by
  have hConfiguration :
      ∀ m ∈ advanced.elim [] configurationMethods,
        m.typeVariables = [] := by
    cases advanced <;> simp [configurationMethods, finalMethod]
  simp only [baseBuilder, List.forall_mem_append,
    List.forall_mem_cons, List.forall_mem_map]
  exact ⟨⟨⟨rfl, rfl, by simp⟩, fun _ _ => rfl⟩,
    hConfiguration⟩

------------------------------------------------------------
-- References of a Family
------------------------------------------------------------

/- Every other type declares variables for dry runs at most. -/
theorem Role.typeVariables_declare
    {p : SyncParts}
    {role : Role}
    (hInitializer : p.strategy.initializer = .ok p.initializer)
    (hRole : role ≠ .baseBuilder) :
    (role.declare p).typeVariables = [] ∧
      ∀ m ∈ (role.declare p).methods,
        m.typeVariables = [] ∨
          m = DryRun.method p.strategy.names := by
  refine ⟨by cases role <;> first | rfl | contradiction, ?_⟩
  have hNone :
      ∀ {methods : List Method},
        (∀ m ∈ methods, m.typeVariables = []) →
          ∀ m ∈ methods,
            m.typeVariables = [] ∨
              m = DryRun.method p.strategy.names :=
    fun hMethods m hM => .inl (hMethods m hM)
  cases role with
  | syncInterface =>
      apply hNone
      cases hWaiters : p.strategy.service.hasWaiters <;>
        simp [declare, Client.syncInterface, builderFactory,
          clientFactory, declaredOperation, metadataFactory,
          accessor, hWaiters, or_imp, forall_and]
  | syncClient => exact typeVariables_syncClient hInitializer
  | asyncInterface =>
      apply hNone
      simp [declare, Client.asyncInterface, builderFactory,
        clientFactory, declaredOperation, or_imp, forall_and]
  | asyncClient =>
      apply hNone
      cases hAdvanced : p.advanced <;>
        simp [declare, Client.asyncClient, clientConstructors,
          protectedConstructor, delegatedOperation,
          implemented, closing, hAdvanced, or_imp,
          forall_and]
  | baseBuilder => contradiction
  | syncBuilderInterface =>
      apply hNone
      simp [declare, builderInterface, configurationSetter]
  | syncBuilder =>
      apply hNone
      simp only [declare, Client.syncBuilder, builderClass,
        List.forall_mem_cons, List.forall_mem_map]
      exact ⟨rfl, fun _ _ => rfl⟩
  | asyncBuilderInterface =>
      apply hNone
      simp [declare, builderInterface, configurationSetter]
  | asyncBuilder =>
      apply hNone
      simp only [declare, Client.asyncBuilder, builderClass,
        List.forall_mem_singleton]
      rfl

/-
  Wherever a class is written in a family, no type variable
  has its name, unless it is the configuration of the service
  and stands in the builder with the variables.
-/
theorem Role.captured
    {p : SyncParts}
    (hInitializer : p.strategy.initializer = .ok p.initializer)
    (role : Role)
    {r : Reference}
    (hR : r ∈ (role.declare p).references) :
    r.vars ⊆ typeVariableNames ∧
      (r.target.topLevel ∈ r.vars →
        role = .baseBuilder ∧ r.target ∈ p.advanced ∧
          r.target.topLevel ∈ builderVariableNames) := by
  by_cases hRole : role = .baseBuilder
  · subst hRole
    have hVariables :
        r.vars ⊆ builderVariableNames := by
      rcases TypeDecl.scope_of_mem_references hR with
        hNone | hType | ⟨m, hM, hMethod, _⟩
      · rw [hNone]
        exact List.nil_subset _
      · rw [hType]
        exact List.Subset.refl _
      · rw [hMethod, typeVariables_baseBuilder m hM]
        exact List.Subset.refl _
    refine ⟨List.subset_append_of_subset_left _ hVariables, ?_⟩
    intro hCaptured
    have hBuilder := hVariables hCaptured
    rcases mem_mentions_baseBuilder
        (TypeDecl.target_mem_mentions hR) with hMem | hApart
    · exact ⟨rfl, hMem, hBuilder⟩
    · exact absurd (List.mem_append_left _ hBuilder) hApart
  · rcases typeVariables_declare hInitializer hRole with
      ⟨hType, hMethods⟩
    have hScope := TypeDecl.scope_of_mem_references hR
    rw [hType] at hScope
    rcases hScope with hNone | hNone | ⟨m, hM, hMethod, hTarget⟩
    · simp [hNone]
    · simp [hNone, variableNames]
    · rcases hMethods m hM with hNone | rfl
      · simp [hMethod, hNone, variableNames]
      · have hX : r.vars = ["X"] := hMethod
        have hApart :=
          topLevel_not_mem_of_areApart
            (areApart_dryRun p.strategy.names) hTarget
        rw [hX]
        refine ⟨List.subset_append_right _ _, ?_⟩
        intro hCaptured
        exact absurd (List.mem_append_right _ hCaptured) hApart

/- The mark of generated code does not change that. -/
theorem Role.captured_sourceFile
    {p : SyncParts}
    (hInitializer : p.strategy.initializer = .ok p.initializer)
    (emitter : Emitter)
    (package : String)
    (role : Role)
    {r : Reference}
    (hR :
      r ∈ (emitter.sourceFile package (role.declare p)
        ).declaration.references) :
    r.vars ⊆ typeVariableNames ∧
      (r.target.topLevel ∈ r.vars →
        role = .baseBuilder ∧ r.target ∈ p.advanced ∧
          r.target.topLevel ∈ builderVariableNames) := by
  rcases SourceFile.mem_references_declaration hR with
    hNone | hR
  · simp [hNone]
  · exact role.captured hInitializer hR

------------------------------------------------------------
-- Files of a Family
------------------------------------------------------------

section

variable {p : SyncParts}
variable {package : String}

/- The classes of every file are named by identifiers. -/
theorem packaged_sourceFile
    (hParts : p.IsLegal)
    (emitter : Emitter)
    (hPackage : isQualifiedName package = true)
    (role : Role) :
    (emitter.sourceFile package (role.declare p)
      ).Packaged := by
  have hSafe := role.lexicallySafe_declare hParts
  intro c hC
  apply ClassName.IsLegal.packaged
  rcases List.mem_cons.mp hC with rfl | hC
  · exact ClassName.isLegal_inPackage hPackage
      (hSafe.names _ List.mem_cons_self)
  · rcases SourceFile.mem_mentions_declaration hC with
      rfl | hC
    · exact .of_isTypeName (by decide) (by decide)
    · exact hSafe.classes c hC

variable {c : ClassName}

/- The configuration is written in the scope of variables. -/
theorem configuration_mem_references
    (emitter : Emitter)
    (package : String)
    (hC : c ∈ p.advanced) :
    ⟨builderVariableNames, c⟩ ∈
      (emitter.sourceFile package (Role.baseBuilder.declare p)
        ).declaration.references := by
  apply SourceFile.mem_references_of_mem_type
  have hVariables :
      variableNames
          (Role.baseBuilder.declare p).typeVariables =
        builderVariableNames := rfl
  have hField :
      Part.type (.class c) ∈
        (Role.baseBuilder.declare p).fields.flatMap
          Field.layout := by
    rw [Option.mem_def] at hC
    simp [Role.declare, baseBuilder, hC, Field.plain,
      Field.layout]
  change _ ∈ (Role.baseBuilder.declare p).references
  unfold TypeDecl.references
  refine List.mem_append_left _ (List.mem_append_right _ ?_)
  rw [hVariables]
  refine List.mem_map_of_mem (List.mem_flatMap.mpr
    ⟨_, List.mem_append_right _ hField, ?_⟩)
  exact List.mem_singleton_self c

/-
  If it has the name of a variable, then no other class in
  the file has that name.
-/
theorem onlyInSight_configuration
    (emitter : Emitter)
    (package : String)
    (hC : c ∈ p.advanced)
    (hName : c.topLevel ∈ builderVariableNames) :
    (emitter.sourceFile package (Role.baseBuilder.declare p)
      ).OnlyInSight c.outermost := by
  have hReference :=
    configuration_mem_references emitter package hC
  refine ⟨⟨c, SourceFile.target_mem_classes hReference, rfl⟩,
    ?_⟩
  rintro other ⟨d, hD, rfl⟩ hSame
  have hTaken : d.topLevel ∈ typeVariableNames := by
    rw [ClassName.topLevel_outermost,
      ClassName.topLevel_outermost] at hSame
    rw [hSame]
    exact List.mem_append_left _ hName
  rcases List.mem_cons.mp hD with rfl | hD
  · -- The builder has a longer name than any variable.
    have hShort :
        ∀ name ∈ typeVariableNames, name.length = 1 := by
      decide
    have hLong := hShort _ hTaken
    simp [SourceFile.className, Emitter.sourceFile,
      Role.declare, baseBuilder, Names.baseBuilder,
      Names.clientClass, ClassName.simple,
      ClassName.inPackage, String.length_append] at hLong
    have hEnd : "BaseClientBuilder".length = 17 := rfl
    omega
  · rcases SourceFile.mem_mentions_declaration hD with
      rfl | hD
    · exact absurd hTaken (by decide)
    · rcases mem_mentions_baseBuilder hD with hD | hApart
      · rw [Option.mem_unique hD hC]
      · exact absurd hTaken hApart

/- It is then read as the variable. -/
theorem not_readsBack_configuration
    {emitter : Emitter}
    {known : List ClassName}
    (hPackaged :
      (emitter.sourceFile package
        (Role.baseBuilder.declare p)).Packaged)
    (hC : c ∈ p.advanced)
    (hName : c.topLevel ∈ builderVariableNames) :
    ¬(emitter.sourceFile package
        (Role.baseBuilder.declare p)).ReadsBack known
      ⟨builderVariableNames, c⟩ := by
  have hReference :=
    configuration_mem_references emitter package hC
  refine SourceFile.not_readsBack_of_captured ?_
    (onlyInSight_configuration emitter package hC hName) hName
  exact (hPackaged c
    (SourceFile.target_mem_classes hReference)).2

end

------------------------------------------------------------
-- Names Read Back
------------------------------------------------------------

/-
  Whenever files are generated, a class that one of them
  writes is read back exactly if nothing is in its way, and
  type variables are in the way of no class but the
  configuration of the service.  With names that follow the
  conventions it is all that can go wrong: every class in
  every file is read back exactly if the configuration does
  not have the name of a variable of the builder.
-/
theorem generate_namesReadBack
    {s : Service}
    {emitter : Emitter}
    {files : List GeneratedFile}
    (hFiles : generate s emitter = .ok files) :
    ∃ p,
      let file := fun role : Role => emitter.sourceFile
        s.metadata.clientPackageName (role.declare p)
      let references := fun role =>
        (file role).declaration.references
      SyncParts.ofService s = .ok p ∧
        Family s emitter files (Role.declare p) ∧
        (∀ role, (references role).map Reference.target =
          (file role).written) ∧
        (∀ role, ∀ r ∈ references role,
          r.target.topLevel ∈ r.vars →
            role = .baseBuilder ∧ r.target ∈ p.advanced) ∧
        ∀ known, (∀ role, (file role).Supplied known) →
          (∀ role, ∀ r ∈ references role,
            (file role).ReadsBack known r ↔
              (file role).Clear known r) ∧
          (Conventional s.metadata.clientPackageName
              typeVariableNames known →
            ((∀ role, ∀ r ∈ references role,
                (file role).ReadsBack known r) ↔
              ∀ c ∈ p.advanced,
                c.topLevel ∉ builderVariableNames)) := by
  rcases exists_parts_of_generate hFiles with
    ⟨p, hParts, hFamily⟩
  have hPackage :
      isQualifiedName s.metadata.clientPackageName = true := by
    rw [← Names.package_eq hParts.strategy_eq.1]
    exact p.strategy.names.package.valid
  have hPackaged :=
    packaged_sourceFile hParts.isLegal emitter hPackage
  refine ⟨p, SyncParts.ofService_eq_ok_iff.mpr hParts,
    hFamily, fun role => TypeDecl.map_target_references _,
    ?_, ?_⟩
  · intro role r hR hName
    rcases (role.captured_sourceFile hParts.initializer emitter
        _ hR).2 hName with
      ⟨hRole, hMem, -⟩
    exact ⟨hRole, hMem⟩
  · intro known hSupplied
    refine ⟨fun role r hR => SourceFile.readsBack_iff
      (hPackaged role) (hSupplied role)
      (SourceFile.target_mem_classes hR), ?_⟩
    intro hConventional
    constructor
    · intro hAll c hC hName
      exact not_readsBack_configuration
        (hPackaged .baseBuilder) hC hName
        (hAll .baseBuilder _
          (configuration_mem_references _ _ hC))
    · intro hApart role r hR
      rcases role.captured_sourceFile hParts.initializer
          emitter _ hR with
        ⟨hVariables, hOnly⟩
      rw [SourceFile.readsBack_iff_of_conventional
        (hPackaged role) (hSupplied role) hConventional
        (SourceFile.target_mem_classes hR) hVariables]
      intro _ hName
      rcases hOnly hName with ⟨-, hMem, hBuilder⟩
      exact hApart _ hMem hBuilder

/-
  A service with dry runs and a configuration class of that
  name in the package of its clients.
-/
def configuredShop
    (configuration : String) :
    Service where
  metadata := Metadata.named "Shop" "shop" .ec2
  customization :=
    { Customization.none with
      clientConfigClass := some configuration }
  operations :=
    OrderedMap.ofList [("Order", Operation.named "Order")]
  shapes := OrderedMap.ofList []
  hasWaiters := false

/- The top-level classes that the files of types mention. -/
def mentionedClasses
    (emitter : Emitter)
    (package : String)
    (declare : Role → TypeDecl) :
    List ClassName :=
  (Role.all.flatMap fun role =>
    (emitter.sourceFile package (declare role)).classes
    ).map ClassName.outermost

/- They are all that the files need. -/
theorem supplied_mentionedClasses
    (emitter : Emitter)
    (package : String)
    (declare : Role → TypeDecl)
    (role : Role) :
    (emitter.sourceFile package (declare role)).Supplied
      (mentionedClasses emitter package declare) := by
  intro c hC
  exact List.mem_map_of_mem
    (List.mem_flatMap.mpr ⟨role, role.mem_all, hC⟩)

/-
  A configuration may have the name of the variable of dry
  runs: every class in every file is read back.
-/
theorem generate_namesReadBack_configuredShop :
    ∃ files p,
      generate (configuredShop "X") Emitter.standard =
          .ok files ∧
        Family (configuredShop "X") Emitter.standard files
          (Role.declare p) ∧
        ∀ role : Role,
          let f := Emitter.standard.sourceFile "shop"
            (role.declare p)
          ∀ r ∈ f.declaration.references,
            f.ReadsBack
              (mentionedClasses Emitter.standard "shop"
                (Role.declare p))
              r := by
  have hChecked :
      (match SyncParts.ofService (configuredShop "X") with
        | .ok p =>
            followsConventions "shop" typeVariableNames
              (mentionedClasses Emitter.standard "shop"
                (Role.declare p)) &&
            p.advanced.all fun c =>
              !builderVariableNames.contains c.topLevel
        | .error _ => false) = true := by
    decide +kernel
  have hGenerated :
      ∃ files, generate (configuredShop "X")
        Emitter.standard = .ok files :=
    (checks_generate _ _).exists_ok_iff.mpr (by decide)
  rcases hGenerated with ⟨files, hFiles⟩
  rcases generate_namesReadBack hFiles with
    ⟨p, hService, hFamily, -, -, hRead⟩
  simp only [hService, Bool.and_eq_true] at hChecked
  rcases hChecked with ⟨hFollows, hAdvanced⟩
  refine ⟨files, p, hFiles, hFamily, ?_⟩
  refine ((hRead _ (supplied_mentionedClasses _ _ _)).2
    (conventional_of_followsConventions hFollows)).mpr ?_
  intro c hC hName
  rw [Option.mem_def] at hC
  simp [hC, hName] at hAdvanced

/- With the name of a variable of the builder it is not. -/
theorem exists_misread_configuration :
    ∃ files p,
      let f := Emitter.standard.sourceFile "shop"
        (Role.baseBuilder.declare p)
      let r : Reference :=
        ⟨builderVariableNames, .inPackage "shop" "B"⟩
      generate (configuredShop "B") Emitter.standard =
          .ok files ∧
        Family (configuredShop "B") Emitter.standard files
          (Role.declare p) ∧
        r ∈ f.declaration.references ∧
        f.scope.spell r.target = "B" ∧
        "B" ∈ r.vars ∧
        ∀ known, ¬f.ReadsBack known r := by
  have hGenerated :
      ∃ files, generate (configuredShop "B")
        Emitter.standard = .ok files :=
    (checks_generate _ _).exists_ok_iff.mpr (by decide)
  rcases hGenerated with ⟨files, hFiles⟩
  rcases exists_parts_of_generate hFiles with
    ⟨p, hParts, hFamily⟩
  have hPackage := Names.package_eq hParts.strategy_eq.1
  have hAdvanced :
      p.advanced = some (.inPackage "shop" "B") := by
    have hConfigured := hParts.advanced
    unfold Names.advancedConfiguration at hConfigured
    rw [hPackage] at hConfigured
    exact (Except.ok.inj hConfigured).symm
  have hName : "B" ∈ builderVariableNames := by
    decide
  have hOnly :=
    onlyInSight_configuration Emitter.standard "shop"
      hAdvanced hName
  refine ⟨files, p, hFiles, hFamily,
    configuration_mem_references _ _ hAdvanced, ?_, hName,
    fun known => not_readsBack_configuration ?_ hAdvanced
      hName⟩
  · exact if_pos ((SourceFile.isOnly_iff _ _).mpr hOnly)
  · exact packaged_sourceFile hParts.isLegal _ (by decide) _

end ClientGen.Client
