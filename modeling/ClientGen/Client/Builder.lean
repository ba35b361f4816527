import ClientGen.Client.Defaults
import ClientGen.Client.Interface

/-
  The builders of clients: an interface and a class for
  each flavour.

  Key definitions include:
    * `builderInterface`
    * `syncBuilder`
    * `asyncBuilder`
-/

namespace ClientGen.Client

open ClientGen.Java ClientGen.Model

------------------------------------------------------------
-- Interfaces
------------------------------------------------------------

/- The documentation of a builder's interface. -/
def builderJavadoc
    (client : ClassName) :
    String :=
  "A builder for creating an instance of " ++
    link client.simple ++
    ". This can be created with the static " ++
    link (client.simple ++ "#builder()") ++ " method."

/- The method that takes the service's configuration. -/
def configurationSetter
    (builder advanced : ClassName) :
    Method where
  kind := .method advancedConfigurationName
  javadoc :=
    some "Configure service-specific behaviour of the client."
  returns := .class builder
  parameters := [advancedParameter advanced]

/- The interface of builders of a flavour. -/
def builderInterface
    (n : Names)
    (flavour : Flavour)
    (advanced : Option ClassName) :
    TypeDecl :=
  let self := n.builderInterface flavour
  let client := n.interface flavour
  { kind := .interfaceType
    name := self.simple
    javadoc := some (builderJavadoc client)
    modifiers := [.publicAccess]
    superinterfaces :=
      [.generic Sdk.clientBuilder [.class self, .class client]]
    methods :=
      advanced.toList.map (configurationSetter self) }

------------------------------------------------------------
-- Classes
------------------------------------------------------------

/- A builder of a flavour with these methods. -/
def builderClass
    (n : Names)
    (flavour : Flavour)
    (methods : List Method) :
    TypeDecl where
  kind := .classType
  name := (n.builder flavour).simple
  annotations := [.marker Sdk.sdkInternalApi]
  modifiers := [.final]
  superclass :=
    some (.generic n.baseBuilder
      [.class (n.builderInterface flavour),
        .class (n.interface flavour)])
  superinterfaces := [.class (n.builderInterface flavour)]
  methods

/- The method that makes a client that has a configuration. -/
def buildConfiguredClient
    (n : Names)
    (advanced : ClassName) :
    Method :=
  finalMethod "buildServiceClient" (.class n.syncInterface)
    [Parameter.plain (.class Sdk.immutableClientConfiguration)
        "clientConfiguration",
      advancedParameter advanced]
    (statement
        [Sdk.immutableSyncClientConfiguration,
          " syncClientConfiguration = (",
          Sdk.immutableSyncClientConfiguration,
          ") clientConfiguration"] ++
      statement
        ["return new ", n.syncClient,
          "(syncClientConfiguration" ++
            ".asLegacySyncClientParams(), " ++
            advancedConfigurationName ++ ")"])

/- The method that makes the synchronous client. -/
def buildSyncClient
    (n : Names)
    (advanced : Option ClassName) :
    Method :=
  finalOverride "buildClient" (.class n.syncInterface)
    (statement (
      if advanced.isSome then
        ["return buildServiceClient(" ++
          "super.syncClientConfiguration(), " ++
          advancedConfigurationName ++ "())"]
      else
        ["return new ", n.syncClient,
          "(super.syncClientConfiguration()" ++
            ".asLegacySyncClientParams())"]))

/- The builder of synchronous clients. -/
def syncBuilder
    (n : Names)
    (advanced : Option ClassName) :
    TypeDecl :=
  builderClass n .sync
    (buildSyncClient n advanced ::
      advanced.toList.map (buildConfiguredClient n))

/- The method that makes the asynchronous client. -/
def buildAsyncClient
    (n : Names)
    (advanced : Option ClassName) :
    Method :=
  finalOverride "buildAsyncClient" (.class n.asyncInterface)
    (statement
      ["return new ", n.asyncClient,
        "(super.asyncClientConfiguration()" ++
          ".asLegacyAsyncClientParams()" ++
          (if advanced.isSome then
            ", " ++ advancedConfigurationName ++ "()"
            else "") ++ ")"])

/- The builder of asynchronous clients. -/
def asyncBuilder
    (n : Names)
    (advanced : Option ClassName) :
    TypeDecl :=
  builderClass n .async [buildAsyncClient n advanced]

end ClientGen.Client
