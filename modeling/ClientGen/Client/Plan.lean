import ClientGen.Client.Assembly.Generator

/-
  What would be generated for a service.

  Key definitions include:
    * `Plan`
    * `Plan.ofService`
    * `Plan.text`

  A plan looks at the names of the family and the classes it
  is configured with, but not at single operations.
-/

namespace ClientGen.Client

open ClientGen.Java ClientGen.Model

/-
  The name and protocol of a service, the strategy that
  serves it, and the types to generate, in order.
-/
structure Plan where
  service : String
  protocol : Protocol
  strategy : StrategyKind
  types : List ClassName
  deriving DecidableEq, Repr

namespace Plan

/- The plan for a service. -/
def ofService
    (s : Service) :
    Except GenerationError Plan := do
  let strategy ← Strategy.resolve s.protocol s
  let generators ← Generator.prepareAll s
  .ok {
    service := s.metadata.serviceName
    protocol := s.protocol
    strategy := strategy.kind
    types := generators.map Generator.className }

/- A plan as it is shown. -/
def text
    (p : Plan) :
    String :=
  "service:  " ++ p.service ++ "\n" ++
    "protocol: " ++ p.protocol.wireName ++ "\n" ++
    "strategy: " ++ p.strategy.name ++ "\n" ++
    "types:\n" ++
    String.join (p.types.map fun type =>
      "  " ++ type.canonical ++ "\n")

end Plan

end ClientGen.Client
