import ClientGen.Proofs.Client.Members
import ClientGen.Proofs.Client.ProtocolIndependence

/-
  What a strategy has from the protocol it was picked for,
  and what from the service it is bound to.

  Main declarations include:
    * `Assembly.Strategy.Agree`
    * `Assembly.Strategy.agree_bindTo`
    * `Assembly.Strategy.sharedInitializer`
    * `Assembly.Strategy.JsonInitializers`
    * `Assembly.Strategy.resolve_withProtocol`

  A strategy may be bound to a service that names another
  protocol for itself.  It is put beside the one bound to
  the same service under the protocol of the strategy.  All
  statements and members agree, but what the shared factory
  is told of the wire format is read from the service.
-/

namespace ClientGen.Client

open ClientGen.Java ClientGen.Model

------------------------------------------------------------
-- Agreement
------------------------------------------------------------

/- Strategies for JSON serve the protocols of its family. -/
theorem StrategyKind.ofProtocol_eq_json_iff
    {k : Protocol} :
    ofProtocol k = .json ↔ k.isJsonFamily = true := by
  cases k <;> decide

namespace Assembly.Strategy

/-
  Two strategies that put the same into a client, what gives
  the field its value left aside: the same field, statements
  for every operation, helper and methods of their own.
-/
structure Agree
    (t u : Client.Strategy) :
    Prop where
  field : t.field = u.field
  responseHandler :
    ∀ o, responseHandler t o = responseHandler u o
  errorHandler : errorHandler t = errorHandler u
  executionCall :
    ∀ o, executionCall t o = executionCall u o
  helper : helper t = helper u
  additional : additional t = additional u

variable {k : Protocol}
variable {s : Service}
variable {t : Client.Strategy}

/- The strategy bound to its service under its protocol. -/
def bindTo
    (t : Client.Strategy)
    (k : Protocol) :
    Client.Strategy :=
  { t with service := t.service.withProtocol k }

/- A strategy for a protocol is found under that protocol. -/
theorem resolve_bindTo
    (hResolve : Client.Strategy.resolve k s = .ok t) :
    Client.Strategy.resolve k (s.withProtocol k) =
      .ok (bindTo t k) := by
  rcases Client.Strategy.resolve_eq_ok_iff.mp hResolve with
    ⟨hNames, hKind, rfl⟩
  -- The checked names are no part of what was changed.
  exact Client.Strategy.resolve_eq_ok_iff.mpr
    ⟨hNames, hKind, rfl⟩

/- And it goes by that protocol. -/
theorem protocol_bindTo
    (hResolve : Client.Strategy.resolve k s = .ok t) :
    (bindTo t k).protocol = k := by
  rcases Client.Strategy.resolve_eq_ok_iff.mp hResolve with
    ⟨_, hKind, _⟩
  unfold Client.Strategy.protocol bindTo
  simp only [hKind]
  cases k <;> rfl

/-
  What handles a response says whether payloads are JSON,
  which is a matter of shapes and not of the protocol.
-/
theorem responseHandler_withProtocol
    (f : Factory)
    (types : OperationTypes) :
    f.responseHandler (s.withProtocol k) types =
      f.responseHandler s types :=
  rfl

/- The protocol of the service is not asked for. -/
theorem agree_bindTo
    (t : Client.Strategy)
    (k : Protocol) :
    Agree t (bindTo t k) := by
  have hFactory : (bindTo t k).factory? = t.factory? := rfl
  constructor
  case field => rfl
  case responseHandler =>
    intro o
    rw [responseHandler_eq, responseHandler_eq]
    unfold Client.Strategy.responseHandler
    rw [hFactory]
    rcases t.factory? with _ | factory
    · rfl
    · simp only [bindTo, responseHandler_withProtocol]
  case errorHandler => rfl
  case executionCall => exact fun o => rfl
  case helper => rfl
  case additional => rfl

------------------------------------------------------------
-- Initializers
------------------------------------------------------------

/-
  What makes the shared factory if it is told a version and
  a protocol; of protocols, only CBOR and Ion are told.
-/
def sharedInitializer
    (t : Client.Strategy)
    (version : String)
    (told : Protocol) :
    Except GenerationError Method := do
  let settings ←
    metadataSettings t.service t.names version
      (told == .cbor) (told == .ion)
  Factory.initializer Client.Factory.shared settings

/- Whether two protocols are told alike. -/
def ToldAlike
    (first second : Protocol) :
    Prop :=
  (first = .cbor ↔ second = .cbor) ∧
    (first = .ion ↔ second = .ion)

instance
    (first second : Protocol) :
    Decidable (ToldAlike first second) := by
  unfold ToldAlike
  infer_instance

/- Protocols that are told alike make the same factory. -/
theorem sharedInitializer_eq_of_toldAlike
    {first second : Protocol}
    (hAlike : ToldAlike first second)
    (t : Client.Strategy)
    (version : String) :
    sharedInitializer t version first =
      sharedInitializer t version second := by
  have hCbor :
      (first == .cbor) = (second == .cbor) := by
    rw [Bool.eq_iff_iff, beq_iff_eq, beq_iff_eq]
    exact hAlike.1
  have hIon : (first == .ion) = (second == .ion) := by
    rw [Bool.eq_iff_iff, beq_iff_eq, beq_iff_eq]
    exact hAlike.2
  unfold sharedInitializer
  rw [hCbor, hIon]

/- A strategy for JSON reads all it tells from the service. -/
theorem initializer_json
    (hKind : t.kind = .json) :
    initializer t = (do
      let version ← t.jsonVersion
      sharedInitializer t version t.service.protocol) := by
  rcases t with ⟨kind, service, names⟩
  subst hKind
  unfold initializer settings sharedInitializer
  simp only [Client.Strategy.factory?, beq_self_eq_true,
    Bool.true_and]
  cases Client.Strategy.jsonVersion ⟨.json, service, names⟩ with
  | error e => rfl
  | ok version =>
      simp only [bind, Except.bind]

/- Behind a gateway there is always a version to tell. -/
theorem jsonVersion_apiGateway
    (hKind : t.kind = .apiGateway) :
    t.jsonVersion =
      .ok (t.service.metadata.jsonVersion.getD "1.1") := by
  unfold Client.Strategy.jsonVersion Service.jsonVersion
  rw [hKind]
  cases t.service.metadata.jsonVersion with
  | some version => rfl
  | none =>
      cases t.service.protocol.isJsonFamily with
      | true => rfl
      | false => rfl

/- Other strategies are told nothing of the protocol. -/
theorem initializer_bindTo
    (hKind : t.kind ≠ .json) :
    initializer (bindTo t k) = initializer t := by
  rcases t with ⟨kind, service, names⟩
  cases kind with
  | json => exact absurd rfl hKind
  | queryXml => rfl
  | ec2 => rfl
  | apiGateway =>
      unfold initializer settings bindTo
      rw [jsonVersion_apiGateway rfl, jsonVersion_apiGateway rfl]
      rfl

------------------------------------------------------------
-- Strategies for JSON
------------------------------------------------------------

/- Where a version is known it is the given one or 1.1. -/
theorem jsonVersion_of_isSome
    (hKnown : s.jsonVersion.isSome) :
    s.jsonVersion =
      some (s.metadata.jsonVersion.getD "1.1") := by
  unfold Service.jsonVersion at hKnown ⊢
  cases hGiven : s.metadata.jsonVersion with
  | some version => rfl
  | none =>
      cases hFamily : s.protocol.isJsonFamily with
      | true => rfl
      | false =>
          rw [hGiven, hFamily] at hKnown
          cases hKnown

/-
  The initializers of a strategy for JSON and of the same
  strategy bound under its own protocol.  Both tell the
  version of the model.  The one tells the protocol that the
  model names, and has nothing to tell where no version is
  known; the other tells its own.
-/
structure JsonInitializers
    (k : Protocol)
    (s : Service)
    (t u : Client.Strategy) :
    Prop where
  bound :
    initializer u =
      sharedInitializer u
        (s.metadata.jsonVersion.getD "1.1") k
  known :
    s.jsonVersion.isSome →
      initializer t =
        sharedInitializer u
          (s.metadata.jsonVersion.getD "1.1") s.protocol
  unknown :
    s.jsonVersion = none →
      initializer t = .error .noJsonVersion
  same :
    s.jsonVersion.isSome →
      ToldAlike s.protocol k →
      initializer t = initializer u

/- What is told does not depend on the binding. -/
theorem sharedInitializer_bindTo
    (version : String)
    (told : Protocol) :
    sharedInitializer (bindTo t k) version told =
      sharedInitializer t version told :=
  rfl

/- The initializers of a strategy for JSON are like that. -/
theorem jsonInitializers_bindTo
    (hKind : t.kind = .json)
    (hFamily : k.isJsonFamily = true)
    (hService : t.service = s) :
    JsonInitializers k s t (bindTo t k) := by
  subst hService
  have hBoundKnown :
      (t.service.withProtocol k).jsonVersion.isSome := by
    unfold Service.jsonVersion
    rw [show (t.service.withProtocol k).protocol = k from rfl,
      hFamily]
    cases (t.service.withProtocol k).metadata.jsonVersion <;>
      rfl
  have hBound :
      initializer (bindTo t k) =
        sharedInitializer (bindTo t k)
          (t.service.metadata.jsonVersion.getD "1.1") k := by
    have hKindBound : (bindTo t k).kind = .json := hKind
    rw [initializer_json hKindBound]
    unfold Client.Strategy.jsonVersion
    rw [show (bindTo t k).service = t.service.withProtocol k
      from rfl, jsonVersion_of_isSome hBoundKnown]
    rfl
  have hKnown :
      t.service.jsonVersion.isSome →
        initializer t =
          sharedInitializer (bindTo t k)
            (t.service.metadata.jsonVersion.getD "1.1")
            t.service.protocol := by
    intro hIsSome
    rw [initializer_json hKind, sharedInitializer_bindTo]
    unfold Client.Strategy.jsonVersion
    rw [jsonVersion_of_isSome hIsSome]
    rfl
  refine ⟨hBound, hKnown, ?_, ?_⟩
  · intro hNone
    rw [initializer_json hKind]
    unfold Client.Strategy.jsonVersion
    rw [hNone, hKind]
    rfl
  · intro hIsSome hAlike
    rw [hKnown hIsSome, hBound]
    exact sharedInitializer_eq_of_toldAlike hAlike _ _

------------------------------------------------------------
-- Bindings
------------------------------------------------------------

/-
  A strategy for a protocol is found for a service under any
  protocol if it is found under its own, and goes by its own
  there.  What it puts into a client is the same, but for
  what strategies for JSON tell the shared factory.
-/
theorem resolve_withProtocol
    (hResolve : Client.Strategy.resolve k s = .ok t) :
    ∃ u,
      Client.Strategy.resolve k (s.withProtocol k) = .ok u ∧
        u.protocol = k ∧
        (k = .ec2 ∨ k = .apiGateway → t.protocol = k) ∧
        Agree t u ∧
        (k.isJsonFamily = false →
          initializer t = initializer u) ∧
        (k.isJsonFamily = true →
          JsonInitializers k s t u) := by
  rcases Client.Strategy.resolve_eq_ok_iff.mp hResolve with
    ⟨_, hKind, hService⟩
  refine ⟨bindTo t k, resolve_bindTo hResolve,
    protocol_bindTo hResolve, ?_, agree_bindTo t k, ?_, ?_⟩
  · rintro (rfl | rfl)
    · unfold Client.Strategy.protocol
      rw [hKind]
      rfl
    · unfold Client.Strategy.protocol
      rw [hKind]
      rfl
  · intro hFamily
    refine (initializer_bindTo ?_).symm
    rw [hKind, Ne, StrategyKind.ofProtocol_eq_json_iff,
      hFamily]
    exact Bool.false_ne_true
  · intro hFamily
    refine jsonInitializers_bindTo ?_ hFamily hService
    exact hKind.trans
      (StrategyKind.ofProtocol_eq_json_iff.mpr hFamily)

/- The bookshop speaks JSON, and may be picked for CBOR. -/
theorem resolve_withProtocol_bookshop :
    ∃ t u,
      Client.Strategy.resolve .cbor bookshop = .ok t ∧
        Client.Strategy.resolve .cbor
          (bookshop.withProtocol .cbor) = .ok u ∧
        Agree t u ∧
        JsonInitializers .cbor bookshop t u := by
  rcases resolve_withProtocol
    (k := .cbor) (s := bookshop) (t := ⟨.json, bookshop, _⟩)
      rfl with
    ⟨u, hBound, _, _, hAgree, _, hJson⟩
  exact ⟨_, u, rfl, hBound, hAgree, hJson rfl⟩

/-
  Picked for CBOR the bookshop still tells the factory that
  it does not speak CBOR, since its model names JSON.
-/
theorem exists_initializer_of_model :
    ∃ t u,
      Client.Strategy.resolve .cbor bookshop = .ok t ∧
        Client.Strategy.resolve .cbor
          (bookshop.withProtocol .cbor) = .ok u ∧
        initializer t ≠ initializer u := by
  refine ⟨⟨.json, bookshop, _⟩,
    ⟨.json, bookshop.withProtocol .cbor, _⟩, rfl, rfl, ?_⟩
  rw [initializer_eq, initializer_eq]
  intro hSame
  have hParts :=
    congrArg (·.toOption.map fun m => m.body.parts) hSame
  revert hParts
  decide +kernel

end Assembly.Strategy

end ClientGen.Client
