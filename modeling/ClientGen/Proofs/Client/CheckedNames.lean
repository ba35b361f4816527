import ClientGen.Client.Strategy
import ClientGen.Proofs.Client.Checks

/-
  Names that have been checked are those of the model.

  Main declarations include:
    * `map_eq_of_mapM_eq_ok`
    * `Identifier.require_eq_ok_iff`
    * `Names.ofService_eq_ok_iff`
    * `OperationTypes.Matches`
    * `ExceptionTypes.Matches`
    * `Strategy.resolve_eq_ok_iff`
    * `Strategy.initializer_cases`

  A check either refuses a name or hands it on unchanged, so
  what is made of checked names can be told from the model.
-/

namespace ClientGen.Client

open ClientGen.Java ClientGen.Model

------------------------------------------------------------
-- Results
------------------------------------------------------------

/- A result that is changed afterwards was there before. -/
theorem map_eq_ok_iff
    {ε α β : Type}
    {x : Except ε α}
    {f : α → β}
    {b : β} :
    x.map f = .ok b ↔ ∃ a, x = .ok a ∧ b = f a := by
  cases x with
  | error e => simp [Except.map]
  | ok a => simp [Except.map, eq_comm]

/- What holds of each result holds of a list of them. -/
theorem map_eq_of_mapM_eq_ok
    {ε α β γ : Type}
    {f : α → Except ε β}
    {g : β → γ}
    {h : α → γ}
    (hEach : ∀ a b, f a = .ok b → g b = h a)
    {as : List α}
    {bs : List β}
    (hAll : as.mapM f = .ok bs) :
    bs.map g = as.map h := by
  induction as generalizing bs with
  | nil =>
      cases hAll
      rfl
  | cons a as ih =>
      rw [List.mapM_cons] at hAll
      rcases bind_eq_ok_iff.mp hAll with ⟨b, hB, hRest⟩
      rcases bind_eq_ok_iff.mp hRest with ⟨rest, hAs, hBs⟩
      cases hBs
      rw [List.map_cons, List.map_cons, hEach a b hB, ih hAs]

/- Each of the results comes from a member of the list. -/
theorem exists_of_mem_mapM
    {ε α β : Type}
    {f : α → Except ε β}
    {as : List α}
    {bs : List β}
    (hAll : as.mapM f = .ok bs)
    {b : β}
    (hMem : b ∈ bs) :
    ∃ a ∈ as, f a = .ok b := by
  induction as generalizing bs with
  | nil =>
      cases hAll
      cases hMem
  | cons a as ih =>
      rw [List.mapM_cons] at hAll
      rcases bind_eq_ok_iff.mp hAll with ⟨first, hFirst, hRest⟩
      rcases bind_eq_ok_iff.mp hRest with ⟨rest, hAs, hBs⟩
      cases hBs
      rcases List.mem_cons.mp hMem with rfl | hMem
      · exact ⟨a, List.mem_cons_self, hFirst⟩
      · rcases ih hAs hMem with ⟨source, hSource, hB⟩
        exact ⟨source, List.mem_cons_of_mem a hSource, hB⟩

/- And each member of the list has come to a result. -/
theorem exists_mem_of_mapM
    {ε α β : Type}
    {f : α → Except ε β}
    {as : List α}
    {bs : List β}
    (hAll : as.mapM f = .ok bs)
    {a : α}
    (hMem : a ∈ as) :
    ∃ b ∈ bs, f a = .ok b := by
  induction as generalizing bs with
  | nil => cases hMem
  | cons head as ih =>
      rw [List.mapM_cons] at hAll
      rcases bind_eq_ok_iff.mp hAll with ⟨first, hFirst, hRest⟩
      rcases bind_eq_ok_iff.mp hRest with ⟨rest, hAs, hBs⟩
      cases hBs
      rcases List.mem_cons.mp hMem with rfl | hMem
      · exact ⟨first, List.mem_cons_self, hFirst⟩
      · rcases ih hAs hMem with ⟨b, hB, hResult⟩
        exact ⟨b, List.mem_cons_of_mem first hB, hResult⟩

------------------------------------------------------------
-- Identifiers and Packages
------------------------------------------------------------

/- An identifier that is required is handed on as it is. -/
theorem Identifier.require_eq_ok_iff
    {what name : String}
    {i : Identifier} :
    require what name = .ok i ↔ i.text = name := by
  unfold require
  constructor
  · intro hOk
    split at hOk
    · cases hOk
      rfl
    · cases hOk
  · rintro rfl
    rw [dif_pos i.valid]

/- So is the name of a package. -/
theorem PackageName.require_eq_ok_iff
    {name : String}
    {p : PackageName} :
    require name = .ok p ↔ p.text = name := by
  unfold require
  constructor
  · intro hOk
    split at hOk
    · cases hOk
      rfl
    · cases hOk
  · rintro rfl
    rw [dif_pos p.valid]

------------------------------------------------------------
-- Services
------------------------------------------------------------

namespace Names

variable {n : Names}
variable {s : Service}

/- The names of a service are those of its metadata. -/
theorem ofService_eq_ok_iff :
    ofService s = .ok n ↔
      n.service.text = s.metadata.serviceName ∧
        n.package.text = s.metadata.clientPackageName ∧
        n.baseExceptionName.text =
          s.metadata.effectiveBaseException := by
  unfold ofService
  simp only [bind_eq_ok_iff, Identifier.require_eq_ok_iff,
    PackageName.require_eq_ok_iff]
  constructor
  · rintro ⟨service, hService, package, hPackage, base, hBase,
      hNames⟩
    cases hNames
    exact ⟨hService, hPackage, hBase⟩
  · rintro ⟨hService, hPackage, hBase⟩
    exact ⟨_, hService, _, hPackage, _, hBase, rfl⟩

end Names

------------------------------------------------------------
-- Operations
------------------------------------------------------------

/-
  What the classes of an operation are made of: the names of
  the operation, all of which are identifiers.
-/
structure OperationTypes.Matches
    (n : Names)
    (o : Operation)
    (types : OperationTypes) :
    Prop where
  operation : types.operation = o
  method : types.method.text = o.methodName
  input : types.input.text = o.input.name
  requestType : isIdentifier o.input.type = true
  inputShape : isIdentifier o.inputShape = true
  returnType : isIdentifier o.returnType = true
  request : types.request = n.modelClass o.input.type
  response : types.response = n.modelClass o.returnType
  marshaller :
    types.marshaller =
      n.transformClass (o.inputShape ++ "Marshaller")
  unmarshaller :
    types.unmarshaller =
      n.transformClass (unmarshallerName o.returnType)

/- The classes of an operation that has been checked. -/
theorem Names.matches_of_operation
    {n : Names}
    {o : Operation}
    {types : OperationTypes}
    (hTypes : n.operation o = .ok types) :
    types.Matches n o := by
  unfold operation OperationNames.ofOperation at hTypes
  simp only [bind_eq_ok_iff, Identifier.require_eq_ok_iff]
    at hTypes
  rcases hTypes with
    ⟨names, ⟨method, hMethod, input, hInput, requestType,
      hRequest, inputShape, hShape, returnType, hReturn,
      hNames⟩, hTypes⟩
  cases hNames
  cases hTypes
  exact {
    operation := rfl
    method := hMethod
    input := hInput
    requestType := hRequest ▸ requestType.valid
    inputShape := hShape ▸ inputShape.valid
    returnType := hReturn ▸ returnType.valid
    request := congrArg n.modelClass hRequest
    response := congrArg n.modelClass hReturn
    marshaller := by rw [hShape]
    unmarshaller := by rw [hReturn] }

------------------------------------------------------------
-- Exceptions
------------------------------------------------------------

/- What the classes of an exception are made of. -/
structure ExceptionTypes.Matches
    (n : Names)
    (source : Shape)
    (e : ExceptionTypes) :
    Prop where
  shape : e.shape = source
  name : isIdentifier source.name = true
  exception : e.exception = n.modelClass source.name
  unmarshaller :
    e.unmarshaller =
      n.transformClass (unmarshallerName source.name)

/- The classes of an exception that has been checked. -/
theorem Names.matches_of_exception
    {n : Names}
    {shape : Shape}
    {e : ExceptionTypes}
    (hTypes : n.exception shape = .ok e) :
    e.Matches n shape := by
  unfold exception at hTypes
  simp only [bind_eq_ok_iff, Identifier.require_eq_ok_iff]
    at hTypes
  rcases hTypes with ⟨name, hName, hTypes⟩
  cases hTypes
  exact {
    shape := rfl
    name := hName ▸ name.valid
    exception := congrArg n.modelClass hName
    unmarshaller := by rw [hName] }

------------------------------------------------------------
-- Strategies
------------------------------------------------------------

/- A strategy is bound to a service with names. -/
theorem Strategy.resolve_eq_ok_iff
    {protocol : Protocol}
    {s : Service}
    {t : Strategy} :
    resolve protocol s = .ok t ↔
      Names.ofService s = .ok t.names ∧
        t.kind = StrategyKind.ofProtocol protocol ∧
        t.service = s := by
  unfold resolve
  rw [bind_eq_ok_iff]
  constructor
  · rintro ⟨names, hNames, hStrategy⟩
    cases hStrategy
    exact ⟨hNames, rfl, rfl⟩
  · rintro ⟨hNames, hKind, rfl⟩
    exact ⟨t.names, hNames, by rw [← hKind]⟩

/- What a strategy's initializer is made of, if there is one. -/
theorem Strategy.initializer_cases
    {t : Strategy}
    {m : Method}
    (hInitializer : t.initializer = .ok m) :
    (∃ factory settings,
        t.factory? = some factory ∧
          t.settings = .ok settings ∧
          m = factory.initializer settings) ∨
      ∃ exceptions,
        t.factory? = none ∧
          t.names.exceptions t.service = .ok exceptions ∧
          m = Xml.initializer t.names exceptions := by
  unfold initializer at hInitializer
  cases hFactory : t.factory? with
  | some factory =>
      simp only [hFactory] at hInitializer
      rcases map_eq_ok_iff.mp hInitializer with
        ⟨settings, hSettings, rfl⟩
      exact .inl ⟨factory, settings, rfl, hSettings, rfl⟩
  | none =>
      simp only [hFactory] at hInitializer
      rcases map_eq_ok_iff.mp hInitializer with
        ⟨exceptions, hExceptions, rfl⟩
      exact .inr ⟨exceptions, rfl, hExceptions, rfl⟩

/- Settings are of the service's own exceptions. -/
theorem Strategy.of_settings
    {t : Strategy}
    {settings : JsonSettings}
    (hSettings : t.settings = .ok settings) :
    settings.baseException = t.names.baseException ∧
      t.names.exceptions t.service =
        .ok settings.exceptions := by
  unfold Strategy.settings at hSettings
  rcases bind_eq_ok_iff.mp hSettings with
    ⟨version, _, hVersion⟩
  rcases bind_eq_ok_iff.mp hVersion with
    ⟨exceptions, hExceptions, hResult⟩
  cases hResult
  exact ⟨rfl, hExceptions⟩

end ClientGen.Client
