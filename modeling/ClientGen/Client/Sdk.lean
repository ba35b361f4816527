import ClientGen.Java.ClassName

/-
  The classes that generated code refers to: those of the
  software development kit, and a few of the platform.

  Key definitions include:
    * `Sdk.root`
    * `Sdk.sdkClientHandler`
    * `Sdk.jsonClientMetadata`
    * `Sdk.staxResponseHandler`
-/

namespace ClientGen.Client.Sdk

open ClientGen.Java

/- The package that all packages of the kit lie in. -/
def root :
    String :=
  "software.amazon.awssdk"

/- A class of the kit, by the path of its package. -/
def kitClass
    (path simple : String) :
    ClassName :=
  ClassName.inPackage (root ++ path) simple

------------------------------------------------------------
-- Errors, Requests and Responses
------------------------------------------------------------

def amazonClientException : ClassName :=
  kitClass "" "AmazonClientException"

def amazonServiceException : ClassName :=
  kitClass "" "AmazonServiceException"

def amazonWebServiceRequest : ClassName :=
  kitClass "" "AmazonWebServiceRequest"

def amazonWebServiceResponse : ClassName :=
  kitClass "" "AmazonWebServiceResponse"

def request : ClassName :=
  kitClass "" "Request"

def sdkBaseException : ClassName :=
  kitClass "" "SdkBaseException"

def sdkInternalApi : ClassName :=
  kitClass ".annotation" "SdkInternalApi"

------------------------------------------------------------
-- Signing
------------------------------------------------------------

def aws4Signer : ClassName :=
  kitClass ".auth" "Aws4Signer"

def queryStringSigner : ClassName :=
  kitClass ".auth" "QueryStringSigner"

def staticSignerProvider : ClassName :=
  kitClass ".auth" "StaticSignerProvider"

def presignerParams : ClassName :=
  kitClass ".auth.presign" "PresignerParams"

def signerProvider : ClassName :=
  kitClass ".runtime.auth" "SignerProvider"

------------------------------------------------------------
-- Clients
------------------------------------------------------------

def awsAsyncClientParams : ClassName :=
  kitClass ".client" "AwsAsyncClientParams"

def awsSyncClientParams : ClassName :=
  kitClass ".client" "AwsSyncClientParams"

def clientExecutionParams : ClassName :=
  kitClass ".client" "ClientExecutionParams"

def clientHandler : ClassName :=
  kitClass ".client" "ClientHandler"

def clientHandlerParams : ClassName :=
  kitClass ".client" "ClientHandlerParams"

def sdkClientHandler : ClassName :=
  kitClass ".client" "SdkClientHandler"

def apiGatewayClientHandler : ClassName :=
  kitClass ".opensdk.protect.client" "SdkClientHandler"

def clientBuilder : ClassName :=
  kitClass ".client.builder" "ClientBuilder"

def defaultClientBuilder : ClassName :=
  kitClass ".client.builder" "DefaultClientBuilder"

------------------------------------------------------------
-- Configuration
------------------------------------------------------------

def clientListenerConfiguration : ClassName :=
  kitClass ".config" "ClientListenerConfiguration"

def clientSecurityConfiguration : ClassName :=
  kitClass ".config" "ClientSecurityConfiguration"

def immutableAsyncClientConfiguration : ClassName :=
  kitClass ".config" "ImmutableAsyncClientConfiguration"

def immutableClientConfiguration : ClassName :=
  kitClass ".config" "ImmutableClientConfiguration"

def immutableSyncClientConfiguration : ClassName :=
  kitClass ".config" "ImmutableSyncClientConfiguration"

def clientConfigurationDefaults : ClassName :=
  kitClass ".config.defaults" "ClientConfigurationDefaults"

def handlerChainFactory : ClassName :=
  kitClass ".handlers" "HandlerChainFactory"

def serviceMetadata : ClassName :=
  kitClass ".regions" "ServiceMetadata"

------------------------------------------------------------
-- Protocols
------------------------------------------------------------

def defaultErrorResponseHandler : ClassName :=
  kitClass ".http" "DefaultErrorResponseHandler"

def httpResponseHandler : ClassName :=
  kitClass ".http" "HttpResponseHandler"

def sdkHttpConfigurationOptions : ClassName :=
  kitClass ".http" "SdkHttpConfigurationOptions"

def staxResponseHandler : ClassName :=
  kitClass ".http" "StaxResponseHandler"

def jsonClientMetadata : ClassName :=
  kitClass ".protocol.json" "JsonClientMetadata"

def jsonErrorResponseMetadata : ClassName :=
  kitClass ".protocol.json" "JsonErrorResponseMetadata"

def jsonErrorShapeMetadata : ClassName :=
  kitClass ".protocol.json" "JsonErrorShapeMetadata"

def jsonOperationMetadata : ClassName :=
  kitClass ".protocol.json" "JsonOperationMetadata"

def sdkJsonProtocolFactory : ClassName :=
  kitClass ".protocol.json" "SdkJsonProtocolFactory"

def standardErrorUnmarshaller : ClassName :=
  kitClass ".runtime.transform" "StandardErrorUnmarshaller"

def unmarshaller : ClassName :=
  kitClass ".runtime.transform" "Unmarshaller"

def voidStaxUnmarshaller : ClassName :=
  kitClass ".runtime.transform" "VoidStaxUnmarshaller"

------------------------------------------------------------
-- The Platform
------------------------------------------------------------

def arrayList : ClassName :=
  ClassName.inPackage "java.util" "ArrayList"

def arrays : ClassName :=
  ClassName.inPackage "java.util" "Arrays"

def list : ClassName :=
  ClassName.inPackage "java.util" "List"

def completableFuture : ClassName :=
  ClassName.inPackage "java.util.concurrent"
    "CompletableFuture"

def executorService : ClassName :=
  ClassName.inPackage "java.util.concurrent"
    "ExecutorService"

def node : ClassName :=
  ClassName.inPackage "org.w3c.dom" "Node"

def unsupportedOperationException : ClassName :=
  ClassName.javaLang "UnsupportedOperationException"

def autoCloseable : ClassName :=
  ClassName.javaLang "AutoCloseable"

def exception : ClassName :=
  ClassName.javaLang "Exception"

end ClientGen.Client.Sdk
