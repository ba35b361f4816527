import ClientGen.Proofs.Client.Generation

/-
  What a model has to fulfil for its clients to be generated.

  Main declarations include:
    * `requirements`
    * `SyncParts.checks_ofService`
    * `checks_generate`
    * `generate_outcome`

  The requirements are listed in the order in which they are
  found to be violated.  Everything else that could go wrong
  in generating never does.
-/

namespace ClientGen.Client

open ClientGen.Java ClientGen.Model ClientGen.Text

------------------------------------------------------------
-- Requirements
------------------------------------------------------------

/- A name has to be an identifier. -/
def identifierRequirement
    (what name : String) :
    Requirement :=
  ⟨isIdentifier name, .notIdentifier what name⟩

/- A package has to have a qualified name. -/
def packageRequirement
    (name : String) :
    Requirement :=
  ⟨isQualifiedName name, .notPackage name⟩

/- A configured class has to have one, blanks aside. -/
def classRequirement
    (what name : String) :
    Requirement :=
  ⟨isQualifiedName (trimmed name), .notClass what (trimmed name)⟩

/- What an operation has to fulfil. -/
def operationRequirements
    (o : Operation) :
    List Requirement :=
  [identifierRequirement "method name" o.methodName,
    identifierRequirement "input variable" o.input.name,
    identifierRequirement "input type" o.input.type,
    identifierRequirement "input shape" o.inputShape,
    identifierRequirement "return type" o.returnType]

/- What the names of a service have to fulfil. -/
def namesRequirements
    (m : Metadata) :
    List Requirement :=
  [identifierRequirement "service name" m.serviceName,
    packageRequirement m.clientPackageName,
    identifierRequirement "base exception"
      m.effectiveBaseException]

/- What the classes that are configured have to fulfil. -/
def configuredRequirements
    (c : Customization) :
    List Requirement :=
  c.clientConfigClass.toList.map
      (classRequirement "advanced configuration class") ++
    c.presignersClass.toList.map
      (classRequirement "presigners class")

/- What a model has to fulfil, in the order of checking. -/
def requirements
    (s : Service) :
    List Requirement :=
  namesRequirements s.metadata ++
    configuredRequirements s.customization ++
    s.operations.values.flatMap operationRequirements ++
    s.exceptions.map fun shape =>
      identifierRequirement "exception shape" shape.name

/- The error says that a name cannot be used. -/
def GenerationError.IsUnusableName :
    GenerationError → Prop
  | .notIdentifier _ _ => True
  | .notPackage _ => True
  | .notClass _ _ => True
  | .unknownProtocol _ => False
  | .noJsonVersion => False
  | .code _ => False

/- Nothing else is required. -/
theorem isUnusableName_of_mem_requirements
    {s : Service}
    {r : Requirement}
    (hMem : r ∈ requirements s) :
    r.fault.IsUnusableName := by
  simp only [requirements, namesRequirements,
    configuredRequirements, List.mem_append, List.mem_map,
    List.mem_flatMap, operationRequirements,
    List.mem_cons, List.not_mem_nil, or_false] at hMem
  rcases hMem with
    (((rfl | rfl | rfl) | ⟨_, _, rfl⟩ | ⟨_, _, rfl⟩) |
      ⟨_, _, rfl | rfl | rfl | rfl | rfl⟩) | ⟨_, _, rfl⟩ <;>
    trivial

------------------------------------------------------------
-- Names
------------------------------------------------------------

/- An identifier is checked to be one. -/
theorem Identifier.checks_require
    (what name : String) :
    Checks (require what name)
      [identifierRequirement what name] := by
  unfold require
  apply Checks.single
  · intro hHolds
    exact ⟨⟨name, hHolds⟩, dif_pos hHolds⟩
  · intro hFails
    exact dif_neg (Bool.eq_false_iff.mp hFails)

/- So is the name of a package. -/
theorem PackageName.checks_require
    (name : String) :
    Checks (require name) [packageRequirement name] := by
  unfold require
  apply Checks.single
  · intro hHolds
    exact ⟨⟨name, hHolds⟩, dif_pos hHolds⟩
  · intro hFails
    exact dif_neg (Bool.eq_false_iff.mp hFails)

/- So is that of a configured class. -/
theorem checks_resolveClass
    (name defaultPackage what : String) :
    Checks (resolveClass name defaultPackage what)
      [classRequirement what name] := by
  unfold resolveClass
  apply Checks.single
  · intro hHolds
    simp only [classRequirement] at hHolds
    simp only [hHolds, if_true]
    exact ⟨_, rfl⟩
  · intro hFails
    simp only [classRequirement] at hFails ⊢
    simp only [hFails, Bool.false_eq_true, if_false]

/- The names of a service are checked in their order. -/
theorem Names.checks_ofService
    (s : Service) :
    Checks (ofService s) (namesRequirements s.metadata) := by
  unfold ofService
  refine (Identifier.checks_require _ _).bindSingle
    fun service _ => ?_
  refine (PackageName.checks_require _).bindSingle
    fun package _ => ?_
  refine (Identifier.checks_require _ _).bindSingle
    fun base _ => ?_
  exact Checks.ok _

/- So are the classes that are configured. -/
theorem Names.checks_configured
    {α : Type}
    (n : Names)
    (s : Service)
    {f : Option ClassName → Option ClassName →
      Except GenerationError α}
    {rs : List Requirement}
    (hF : ∀ advanced presigners,
      Checks (f advanced presigners) rs) :
    Checks
      (do
        let advanced ← n.advancedConfiguration s
        let presigners ← n.presigners s
        f advanced presigners)
      (configuredRequirements s.customization ++ rs) := by
  have hOptional :
      ∀ (name : Option String) (defaultPackage what : String),
        Checks
          (name.mapM fun name =>
            resolveClass name defaultPackage what)
          (name.toList.map (classRequirement what)) := by
    intro name defaultPackage what
    have hMapM :=
      Checks.optionMapM
        (fun name => checks_resolveClass name defaultPackage
          what) name
    rwa [← List.map_eq_flatMap] at hMapM
  unfold configuredRequirements
  rw [List.append_assoc]
  apply (hOptional _ _ _).bind
  intro advanced _
  apply (hOptional _ _ _).bind
  intro presigners _
  exact hF advanced presigners

/- So are the names of an operation. -/
theorem Names.checks_operation
    (n : Names)
    (o : Operation) :
    Checks (n.operation o) (operationRequirements o) := by
  have hNames :
      Checks (OperationNames.ofOperation o)
        (operationRequirements o) := by
    unfold OperationNames.ofOperation operationRequirements
    refine (Identifier.checks_require _ _).bindSingle
      fun method _ => ?_
    refine (Identifier.checks_require _ _).bindSingle
      fun input _ => ?_
    refine (Identifier.checks_require _ _).bindSingle
      fun requestType _ => ?_
    refine (Identifier.checks_require _ _).bindSingle
      fun inputShape _ => ?_
    exact (Identifier.checks_require _ _).bindSingle
      fun returnType _ => Checks.ok _
  rw [← List.append_nil (operationRequirements o)]
  exact hNames.bind fun names _ => Checks.ok _

/- So is the name of an exception. -/
theorem Names.checks_exceptions
    (n : Names)
    (s : Service) :
    Checks (n.exceptions s)
      (s.exceptions.map fun shape =>
        identifierRequirement "exception shape"
          shape.name) := by
  rw [List.map_eq_flatMap]
  apply Checks.mapM
  intro shape
  refine (Identifier.checks_require _ _).bindSingle
    fun name _ => ?_
  exact Checks.ok _

------------------------------------------------------------
-- Parts of the Client
------------------------------------------------------------

/-
  A strategy that is chosen by the protocol of its service
  knows the version to announce.
-/
theorem Strategy.exists_jsonVersion
    {t : Strategy}
    {factory : Factory}
    (hKind : t.kind = StrategyKind.ofProtocol t.service.protocol)
    (hFactory : t.factory? = some factory) :
    ∃ version, t.jsonVersion = .ok version := by
  unfold jsonVersion
  cases hGiven : t.service.jsonVersion with
  | some version => exact ⟨version, rfl⟩
  | none =>
      unfold Service.jsonVersion at hGiven
      unfold factory? at hFactory
      cases hProtocol : t.service.protocol <;>
        simp_all [StrategyKind.ofProtocol,
          Protocol.isJsonFamily]

/- Its initializer needs the names of the exceptions. -/
theorem Strategy.checks_initializer
    {t : Strategy}
    (hKind :
      t.kind = StrategyKind.ofProtocol t.service.protocol) :
    Checks t.initializer
      (t.service.exceptions.map fun shape =>
        identifierRequirement "exception shape"
          shape.name) := by
  have hExceptions := t.names.checks_exceptions t.service
  unfold initializer
  cases hFactory : t.factory? with
  | none => exact hExceptions.map _
  | some factory =>
      rcases exists_jsonVersion hKind hFactory with
        ⟨version, hVersion⟩
      unfold settings
      rw [hVersion]
      apply Checks.map
      rw [← List.append_nil (t.service.exceptions.map _)]
      exact hExceptions.bind fun exceptions _ => Checks.ok _

/- The parts of the client check all the requirements. -/
theorem SyncParts.checks_ofService
    (s : Service) :
    Checks (ofService s) (requirements s) := by
  unfold ofService Strategy.resolve requirements
  rw [List.append_assoc, List.append_assoc]
  have hResolve :
      Checks
        (do
          let names ← Names.ofService s
          .ok (⟨StrategyKind.ofProtocol s.protocol, s,
            names⟩ : Strategy))
        (namesRequirements s.metadata) := by
    rw [← List.append_nil (namesRequirements s.metadata)]
    exact (Names.checks_ofService s).bind
      fun names _ => Checks.ok _
  apply hResolve.bind
  intro t hT
  rcases bind_eq_ok_iff.mp hT with ⟨names, _, hStrategy⟩
  have hBound := Except.ok.inj hStrategy
  subst hBound
  apply Names.checks_configured
  intro advanced presigners
  apply (Checks.mapM (Names.checks_operation names)
    s.operations.values).bind
  intro operations _
  rw [← List.append_nil (s.exceptions.map _)]
  refine Checks.bind ?_ fun initializer _ => Checks.ok _
  exact Strategy.checks_initializer rfl

/- So does the generation of all files. -/
theorem checks_generate
    (s : Service)
    (emitter : Emitter) :
    Checks (generate s emitter) (requirements s) := by
  rw [generate_eq]
  exact (SyncParts.checks_ofService s).map _

------------------------------------------------------------
-- Outcomes
------------------------------------------------------------

/-
  Clients are generated exactly for the models that fulfil
  all requirements.  For any other model the fault of the
  first requirement that it violates is reported, and there
  are no other faults.
-/
theorem generate_outcome
    (s : Service)
    (emitter : Emitter) :
    ((∃ files, generate s emitter = .ok files) ↔
        ∀ r ∈ requirements s, r.holds = true) ∧
      (∀ before r after,
        requirements s = before ++ r :: after →
        (∀ q ∈ before, q.holds = true) →
        r.holds = false →
        generate s emitter = .error r.fault) ∧
      (∀ e, generate s emitter = .error e →
        e.IsUnusableName ∧
          ∃ what, e.message = missingData what) := by
  have hChecks := checks_generate s emitter
  refine ⟨hChecks.exists_ok_iff, ?_, ?_⟩
  · intro before r after hList hBefore hFails
    rw [hChecks.eq_error_iff, hList]
    exact Requirement.checkAll_eq_error hBefore hFails
  · intro e hError
    rw [hChecks.eq_error_iff] at hError
    rcases
        Requirement.exists_of_checkAll_eq_error hError with
      ⟨before, r, after, hList, _, _, hFault⟩
    have hUnusable : e.IsUnusableName := by
      rw [← hFault]
      apply isUnusableName_of_mem_requirements (s := s)
      rw [hList]
      simp
    refine ⟨hUnusable, ?_⟩
    cases e with
    | notIdentifier what name => exact ⟨_, rfl⟩
    | notPackage name => exact ⟨_, rfl⟩
    | notClass what name => exact ⟨_, rfl⟩
    | unknownProtocol name => exact hUnusable.elim
    | noJsonVersion => exact hUnusable.elim
    | code e => exact hUnusable.elim

end ClientGen.Client
