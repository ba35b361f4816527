import ClientGen.Client.Builder

/-
  The builders of clients, written in the format language.

  Key definitions include:
    * `Assembly.signer`
    * `Assembly.securityDefaults`
    * `Assembly.listenerDefaults`
    * `Assembly.baseBuilder`
    * `Assembly.builderInterface`
    * `Assembly.syncBuilder`
    * `Assembly.asyncBuilder`
-/

namespace ClientGen.Client.Assembly

open ClientGen.Java ClientGen.Model

------------------------------------------------------------
-- Defaults
------------------------------------------------------------

/- The statements that make the provider of signers. -/
def signer
    (m : Metadata) :
    Except CodeError Code :=
  match m.signatureVersion with
  | .v4 => Code.ofSteps [
      .statement "$T signer = new $T()"
        [Sdk.aws4Signer, Sdk.aws4Signer],
      .statement "signer.setServiceName($S)"
        [m.effectiveSigningName],
      .statement "signer.setRegionName(signingRegion())" [],
      .statement "return new $T(signer)"
        [Sdk.staticSignerProvider]]
  | .v2 => Code.ofSteps [
      .statement "return new $T(new $T())"
        [Sdk.staticSignerProvider, Sdk.queryStringSigner]]

/- The method that sees to a provider of signers. -/
def securityDefaults
    (m : Metadata) :
    Except CodeError Code := do
  let signer ← signer m
  Code.ofSteps [
    .add "@$T\n" [ClassName.javaLang "Override"],
    .beginBlock
      "protected void applySecurityDefaults($T builder)"
      [Sdk.clientSecurityConfiguration.inner "Builder"],
    .statement
      ("builder.signerProvider(builder.signerProvider()" ++
        ".orElseGet(this::defaultSignerProvider))") [],
    .endBlock,
    .add "\n" [],
    .beginBlock "private $T defaultSignerProvider()"
      [Sdk.signerProvider],
    .code signer,
    .endBlock]

/- The method that adds the handlers found at run time. -/
def listenerDefaults
    (n : Names) :
    Except CodeError Code :=
  let directory := directoryOf n.package.text
  Code.ofSteps [
    .add "@$T\n" [ClassName.javaLang "Override"],
    .beginBlock
      "protected void applyListenerDefaults($T builder)"
      [Sdk.clientListenerConfiguration.inner "Builder"],
    .statement "$T chainFactory = new $T()"
      [Sdk.handlerChainFactory, Sdk.handlerChainFactory],
    .statement
      ("chainFactory.newRequestHandlerChain($S)" ++
        ".forEach(builder::addRequestListener)")
      [directory ++ "/request.handlers"],
    .statement
      ("chainFactory.newRequestHandler2Chain($S)" ++
        ".forEach(builder::addRequestListener)")
      [directory ++ "/request.handler2s"],
    .endBlock]

------------------------------------------------------------
-- The Base Builder
------------------------------------------------------------

/- The method that tells where the service is. -/
def endpointPrefix
    (m : Metadata) :
    Except CodeError Method :=
  Method.withSteps
    (finalOverride "serviceEndpointPrefix"
      (.class (ClassName.javaLang "String")) [])
    [.statement "return $S" [m.endpointPrefix]]

/- The method that makes the defaults of a service. -/
def serviceDefaults
    (m : Metadata)
    (n : Names) :
    Except CodeError Method := do
  let security ← securityDefaults m
  let listeners ← listenerDefaults n
  Method.withSteps
    (finalOverride "serviceDefaults"
      (.class Sdk.clientConfigurationDefaults) [])
    [.add "return new $T() \x7b\n$>"
        [Sdk.clientConfigurationDefaults],
      .code security,
      .add "\n" [],
      .code listeners,
      .add "$<\x7d;\n" []]

/- The method that gives the options of connections. -/
def httpConfig
    (expression : String) :
    Except CodeError Method :=
  Method.withSteps
    (finalOverride "serviceSpecificHttpConfig"
      (.class Sdk.sdkHttpConfigurationOptions) [])
    [.statement "return $L" [expression]]

/- The methods that set and get the configuration. -/
def configurationMethods
    (advanced : ClassName) :
    Except CodeError (List Method) := do
  let name := advancedConfigurationName
  let setter ←
    Method.withSteps {
        kind := .method name
        modifiers := [.publicAccess]
        returns := builderVariable
        parameters := [advancedParameter advanced] }
      [.statement "this.$N = $N" [name, name],
        .statement "return thisBuilder()" []]
  let getter ←
    Method.withSteps
      (finalMethod name (.class advanced) [] [])
      [.statement "return $N" [name]]
  .ok [setter, getter]

/- The builder that both builders extend. -/
def baseBuilder
    (s : Service)
    (n : Names)
    (advanced : Option ClassName) :
    Except CodeError TypeDecl := do
  let endpoint ← endpointPrefix s.metadata
  let defaults ← serviceDefaults s.metadata n
  let http ← s.customization.httpConfig.mapM httpConfig
  let configuration ←
    match advanced with
    | some advanced => configurationMethods advanced
    | none => .ok []
  .ok {
    kind := .classType
    name := n.baseBuilder.simple
    annotations := [.marker Sdk.sdkInternalApi]
    modifiers := [.abstract]
    typeVariables :=
      [.variable "B" [anyBuilder], clientVariable]
    superclass :=
      some (.generic Sdk.defaultClientBuilder
        [builderVariable, clientVariable])
    superinterfaces := [anyBuilder]
    fields :=
      advanced.toList.map fun advanced =>
        Field.plain (.class advanced)
          advancedConfigurationName [.privateAccess]
    methods :=
      [endpoint, defaults] ++ http.toList ++ configuration }

------------------------------------------------------------
-- Interfaces
------------------------------------------------------------

/- The interface of builders of a flavour. -/
def builderInterface
    (n : Names)
    (flavour : Flavour)
    (advanced : Option ClassName) :
    Except CodeError TypeDecl := do
  let self := n.builderInterface flavour
  let client := n.interface flavour
  let setter ← advanced.mapM fun advanced =>
    Method.withSteps {
        kind := .method advancedConfigurationName
        javadoc :=
          some ("Configure service-specific behaviour of " ++
            "the client.")
        returns := .class self
        parameters := [advancedParameter advanced] }
      []
  .ok {
    kind := .interfaceType
    name := self.simple
    javadoc := some (builderJavadoc client)
    modifiers := [.publicAccess]
    superinterfaces :=
      [.generic Sdk.clientBuilder [.class self, .class client]]
    methods := setter.toList }

------------------------------------------------------------
-- Classes
------------------------------------------------------------

/- The method that makes a client that has a configuration. -/
def buildConfiguredClient
    (n : Names)
    (advanced : ClassName) :
    Except CodeError Method :=
  Method.withSteps
    (finalMethod "buildServiceClient"
      (.class n.syncInterface)
      [Parameter.plain
          (.class Sdk.immutableClientConfiguration)
          "clientConfiguration",
        advancedParameter advanced] [])
    [.statement
        ("$T syncClientConfiguration = " ++
          "($T) clientConfiguration")
        [Sdk.immutableSyncClientConfiguration,
          Sdk.immutableSyncClientConfiguration],
      .statement
        ("return new $T(syncClientConfiguration" ++
          ".asLegacySyncClientParams(), $N)")
        [n.syncClient, advancedConfigurationName]]

/- The method that makes the synchronous client. -/
def buildSyncClient
    (n : Names)
    (advanced : Option ClassName) :
    Except CodeError Method :=
  Method.withSteps
    (finalOverride "buildClient" (.class n.syncInterface) [])
    [match advanced with
      | some _ =>
          .statement
            ("return buildServiceClient(" ++
              "super.syncClientConfiguration(), $N())")
            [advancedConfigurationName]
      | none =>
          .statement
            ("return new $T(super.syncClientConfiguration()" ++
              ".asLegacySyncClientParams())")
            [n.syncClient]]

/- The builder of synchronous clients. -/
def syncBuilder
    (n : Names)
    (advanced : Option ClassName) :
    Except CodeError TypeDecl := do
  let build ← buildSyncClient n advanced
  let configured ←
    advanced.mapM (buildConfiguredClient n)
  .ok (builderClass n .sync (build :: configured.toList))

/- The method that makes the asynchronous client. -/
def buildAsyncClient
    (n : Names)
    (takesAdvanced : Bool) :
    Except CodeError Method :=
  Method.withSteps
    (finalOverride "buildAsyncClient"
      (.class n.asyncInterface) [])
    [if takesAdvanced then
        .statement
          ("return new $T(super.asyncClientConfiguration()" ++
            ".asLegacyAsyncClientParams(), $N())")
          [n.asyncClient, advancedConfigurationName]
      else
        .statement
          ("return new $T(super.asyncClientConfiguration()" ++
            ".asLegacyAsyncClientParams())")
          [n.asyncClient]]

/- The builder of asynchronous clients. -/
def asyncBuilder
    (n : Names)
    (takesAdvanced : Bool) :
    Except CodeError TypeDecl := do
  let build ← buildAsyncClient n takesAdvanced
  .ok (builderClass n .async [build])

end ClientGen.Client.Assembly
