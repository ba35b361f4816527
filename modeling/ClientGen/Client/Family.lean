import ClientGen.Client.AsyncClient
import ClientGen.Client.Builder

/-
  The family of types that is generated for a service.

  Key definitions include:
    * `Role`
    * `Role.all`
    * `Role.className`
    * `SyncParts.ofService`
    * `Role.declare`

  The order of the roles is that of generation.  What a type
  looks like is said here; how it is put together, and which
  faults of a model are found on the way, is told in the
  modules on assembly.
-/

namespace ClientGen.Client

open ClientGen.Java ClientGen.Model

------------------------------------------------------------
-- Roles
------------------------------------------------------------

/- The part that a generated type plays. -/
inductive Role where
  | syncInterface
  | syncClient
  | asyncInterface
  | asyncClient
  | baseBuilder
  | syncBuilderInterface
  | syncBuilder
  | asyncBuilderInterface
  | asyncBuilder
  deriving DecidableEq, Repr

namespace Role

/- All roles, in the order of generation. -/
def all :
    List Role :=
  [.syncInterface, .syncClient, .asyncInterface, .asyncClient,
    .baseBuilder, .syncBuilderInterface, .syncBuilder,
    .asyncBuilderInterface, .asyncBuilder]

/- The name of the type in a role. -/
def className
    (n : Names) :
    Role → ClassName
  | .syncInterface => n.syncInterface
  | .syncClient => n.syncClient
  | .asyncInterface => n.asyncInterface
  | .asyncClient => n.asyncClient
  | .baseBuilder => n.baseBuilder
  | .syncBuilderInterface => n.syncBuilderInterface
  | .syncBuilder => n.syncBuilder
  | .asyncBuilderInterface => n.asyncBuilderInterface
  | .asyncBuilder => n.asyncBuilder

end Role

------------------------------------------------------------
-- Declarations
------------------------------------------------------------

/-
  The parts of the client of a service, if all names that
  its family refers to can be used: first those of the
  service and of the configured classes, then those of the
  operations and exceptions.
-/
def SyncParts.ofService
    (s : Service) :
    Except GenerationError SyncParts := do
  let strategy ← Strategy.resolve s.protocol s
  let advanced ← strategy.names.advancedConfiguration s
  let presigners ← strategy.names.presigners s
  let operations ← strategy.names.operations s
  let initializer ← strategy.initializer
  .ok { strategy, advanced, presigners, operations, initializer }

/- The type in a role, once all names have been checked. -/
def Role.declare
    (p : SyncParts) :
    Role → TypeDecl
  | .syncInterface =>
      Client.syncInterface p.strategy.service p.strategy.names
        p.operations p.presigners
  | .syncClient => p.declaration
  | .asyncInterface =>
      Client.asyncInterface p.strategy.names p.operations
  | .asyncClient =>
      Client.asyncClient p.strategy.names p.advanced
        p.operations
  | .baseBuilder =>
      Client.baseBuilder p.strategy.service p.strategy.names
        p.advanced
  | .syncBuilderInterface =>
      builderInterface p.strategy.names .sync p.advanced
  | .syncBuilder =>
      Client.syncBuilder p.strategy.names p.advanced
  | .asyncBuilderInterface =>
      builderInterface p.strategy.names .async p.advanced
  | .asyncBuilder =>
      Client.asyncBuilder p.strategy.names p.advanced

end ClientGen.Client
