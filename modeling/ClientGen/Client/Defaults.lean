import ClientGen.Client.Execution

/-
  What the builders of both clients have in common: where
  the service is, how requests are signed, which handlers
  see them, and the service's own configuration.

  Key definitions include:
    * `signer`
    * `securityDefaults`
    * `listenerDefaults`
    * `baseBuilder`
-/

namespace ClientGen.Client

open ClientGen.Java ClientGen.Model

------------------------------------------------------------
-- Members of Builders
------------------------------------------------------------

/- A method that subclasses can use but not change. -/
def finalMethod
    (name : String)
    (returned : TypeName)
    (parameters : List Parameter)
    (body : List Code.Part) :
    Method where
  kind := .method name
  modifiers := [.protectedAccess, .final]
  returns := returned
  parameters
  body := Code.ofParts body

/- One that takes the place of an inherited method. -/
def finalOverride
    (name : String)
    (returned : TypeName)
    (body : List Code.Part) :
    Method :=
  { finalMethod name returned [] body with
    annotations := [.overriding] }

/- The parameter with the service's own configuration. -/
def advancedParameter
    (advanced : ClassName) :
    Parameter :=
  Parameter.plain (.class advanced) advancedConfigurationName

------------------------------------------------------------
-- Security
------------------------------------------------------------

/- The statements that make the provider of signers. -/
def signer
    (m : Metadata) :
    List Code.Part :=
  match m.signatureVersion with
  | .v4 =>
      statement [Sdk.aws4Signer, " signer = new ",
        Sdk.aws4Signer, "()"] ++
      statement ["signer.setServiceName(",
        quotedText m.effectiveSigningName, ")"] ++
      statement
        ["signer.setRegionName(signingRegion())"] ++
      statement ["return new ", Sdk.staticSignerProvider,
        "(signer)"]
  | .v2 =>
      statement ["return new ", Sdk.staticSignerProvider,
        "(new ", Sdk.queryStringSigner, "())"]

/- The mark of a method, on a line of its own. -/
def overridingMark :
    List Code.Part :=
  ["@", ClassName.javaLang "Override", "\n"]

/- The method that sees to a provider of signers. -/
def securityDefaults
    (m : Metadata) :
    List Code.Part :=
  overridingMark ++
  block
    ["protected void applySecurityDefaults(",
      Sdk.clientSecurityConfiguration.inner "Builder",
      " builder)"]
    (statement
      ["builder.signerProvider(builder.signerProvider()" ++
        ".orElseGet(this::defaultSignerProvider))"]) ++
  [.text "\n"] ++
  block
    ["private ", Sdk.signerProvider,
      " defaultSignerProvider()"]
    (signer m)

------------------------------------------------------------
-- Listeners
------------------------------------------------------------

/- The directory of a package, from the root. -/
def directoryOf
    (package : String) :
    String :=
  "/" ++ package.map (fun c => if c = '.' then '/' else c)

/- The statement that adds the handlers a file lists. -/
def chainedHandlers
    (chain path : String) :
    List Code.Part :=
  statement ["chainFactory." ++ chain ++ "(",
    quotedText path,
    ").forEach(builder::addRequestListener)"]

/- The method that adds the handlers found at run time. -/
def listenerDefaults
    (n : Names) :
    List Code.Part :=
  let directory := directoryOf n.package.text
  overridingMark ++
  block
    ["protected void applyListenerDefaults(",
      Sdk.clientListenerConfiguration.inner "Builder",
      " builder)"]
    (statement [Sdk.handlerChainFactory,
        " chainFactory = new ", Sdk.handlerChainFactory,
        "()"] ++
      chainedHandlers "newRequestHandlerChain"
        (directory ++ "/request.handlers") ++
      chainedHandlers "newRequestHandler2Chain"
        (directory ++ "/request.handler2s"))

------------------------------------------------------------
-- The Base Builder
------------------------------------------------------------

/- The variables for the builder and for its client. -/
def builderVariable : TypeName :=
  .variable "B" []

def clientVariable : TypeName :=
  .variable "C" []

/- A builder in general. -/
def anyBuilder :
    TypeName :=
  .generic Sdk.clientBuilder [builderVariable, clientVariable]

/- The method that tells where the service is. -/
def endpointPrefix
    (m : Metadata) :
    Method :=
  finalOverride "serviceEndpointPrefix"
    (.class (ClassName.javaLang "String"))
    (statement ["return ", quotedText m.endpointPrefix])

/- The method that makes the defaults of a service. -/
def serviceDefaults
    (m : Metadata)
    (n : Names) :
    Method :=
  finalOverride "serviceDefaults"
    (.class Sdk.clientConfigurationDefaults)
    ([.text "return new ",
        .type (.class Sdk.clientConfigurationDefaults),
        .text "() \x7b\n", .indent] ++
      securityDefaults m ++ [.text "\n"] ++
      listenerDefaults n ++
      [.unindent, .text "\x7d;\n"])

/- The method that gives the options of connections. -/
def httpConfig
    (expression : String) :
    Method :=
  finalOverride "serviceSpecificHttpConfig"
    (.class Sdk.sdkHttpConfigurationOptions)
    (statement ["return " ++ expression])

/- The methods that set and get the configuration. -/
def configurationMethods
    (advanced : ClassName) :
    List Method :=
  let name := advancedConfigurationName
  [{ kind := .method name
     modifiers := [.publicAccess]
     returns := builderVariable
     parameters := [advancedParameter advanced]
     body := Code.ofParts (
       statement ["this." ++ name ++ " = " ++ name] ++
       statement ["return thisBuilder()"]) },
    finalMethod name (.class advanced) []
      (statement ["return " ++ name])]

/- The builder that both builders extend. -/
def baseBuilder
    (s : Service)
    (n : Names)
    (advanced : Option ClassName) :
    TypeDecl where
  kind := .classType
  name := n.baseBuilder.simple
  annotations := [.marker Sdk.sdkInternalApi]
  modifiers := [.abstract]
  typeVariables := [.variable "B" [anyBuilder], clientVariable]
  superclass :=
    some (.generic Sdk.defaultClientBuilder
      [builderVariable, clientVariable])
  superinterfaces := [anyBuilder]
  fields :=
    advanced.toList.map fun advanced =>
      Field.plain (.class advanced) advancedConfigurationName
        [.privateAccess]
  methods :=
    [endpointPrefix s.metadata, serviceDefaults s.metadata n] ++
    s.customization.httpConfig.toList.map httpConfig ++
    advanced.elim [] configurationMethods

end ClientGen.Client
