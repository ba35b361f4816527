import ClientGen.Client.Assembly.AsyncClient
import ClientGen.Client.Assembly.Builder
import ClientGen.Client.Assembly.Interface
import ClientGen.Client.Family

/-
  What puts one type of the family together.

  Key definitions include:
    * `Generator`
    * `Generator.prepare`
    * `Generator.prepareAll`
    * `Generator.assemble`
    * `Role.declaration`

  All generators are prepared before the first type is
  assembled, so the names of the service and its configured
  classes are checked before any operation.
-/

namespace ClientGen.Client

open ClientGen.Java ClientGen.Model

/-
  The role of a type, the service with its names, and the
  configured classes that are known before the type is
  assembled.
-/
structure Generator where
  role : Role
  service : Service
  names : Names
  advanced : Option ClassName
  presigners : Option ClassName
  deriving DecidableEq, Repr

/- Whether the type in a role knows of a configuration. -/
def Role.takesAdvanced : Role → Bool
  | .syncInterface => false
  | .asyncInterface => false
  | _ => true

namespace Generator

/- The generator for a role, with the names it needs. -/
def prepare
    (s : Service)
    (role : Role) :
    Except GenerationError Generator := do
  let names ← Names.ofService s
  let advanced ←
    if role.takesAdvanced then names.advancedConfiguration s
    else .ok none
  let presigners ←
    if role = .syncClient then names.presigners s
    else .ok none
  .ok { role, service := s, names, advanced, presigners }

/- The generators for all roles, in order. -/
def prepareAll
    (s : Service) :
    Except GenerationError (List Generator) :=
  Role.all.mapM (prepare s)

/- The name of the type. -/
def className
    (g : Generator) :
    ClassName :=
  g.role.className g.names

/- Put the type together. -/
def assemble
    (g : Generator)
    (t : Strategy) :
    Except GenerationError TypeDecl := do
  match g.role with
  | .syncInterface => Assembly.syncInterface g.service g.names
  | .syncClient =>
      Assembly.syncClient g.service g.names t g.advanced
        g.presigners
  | .asyncInterface =>
      Assembly.asyncInterface g.service g.names
  | .asyncClient =>
      Assembly.asyncClient g.service g.names g.advanced
  | .baseBuilder =>
      Assembly.baseBuilder g.service g.names g.advanced
  | .syncBuilderInterface =>
      Assembly.builderInterface g.names .sync g.advanced
  | .syncBuilder => Assembly.syncBuilder g.names g.advanced
  | .asyncBuilderInterface =>
      Assembly.builderInterface g.names .async g.advanced
  | .asyncBuilder =>
      Assembly.asyncBuilder g.names g.advanced.isSome

end Generator

/- The type in a role on its own. -/
def Role.declaration
    (t : Strategy)
    (role : Role) :
    Except GenerationError TypeDecl := do
  let g ← Generator.prepare t.service role
  g.assemble t

end ClientGen.Client
