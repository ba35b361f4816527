/-
  The wire protocols that services speak, and the schemes by
  which requests are signed.

  Key definitions include:
    * `Protocol`
    * `Protocol.wireName`
    * `Protocol.ofName?`
    * `Protocol.isJsonFamily`
    * `Protocol.isQueryFamily`
    * `SignatureVersion`
-/

namespace ClientGen.Model

------------------------------------------------------------
-- Protocols
------------------------------------------------------------

/- A wire protocol. -/
inductive Protocol where
  | json
  | restJson
  | cbor
  | ion
  | query
  | restXml
  | ec2
  | apiGateway
  deriving DecidableEq, Repr, Inhabited

namespace Protocol

/- Every protocol. -/
def all :
    List Protocol :=
  [.json, .restJson, .cbor, .ion, .query, .restXml, .ec2,
   .apiGateway]

/- The name of a protocol in documents. -/
def wireName : Protocol → String
  | .json => "json"
  | .restJson => "rest-json"
  | .cbor => "cbor"
  | .ion => "ion"
  | .query => "query"
  | .restXml => "rest-xml"
  | .ec2 => "ec2"
  | .apiGateway => "api-gateway"

/- The protocol of that name. -/
def ofName?
    (name : String) :
    Option Protocol :=
  all.find? (·.wireName == name)

/- Protocols that share the runtime for JSON. -/
def isJsonFamily : Protocol → Bool
  | .json => true
  | .restJson => true
  | .cbor => true
  | .ion => true
  | _ => false

/- Protocols that share the runtime for XML. -/
def isQueryFamily : Protocol → Bool
  | .query => true
  | .restXml => true
  | _ => false

end Protocol

------------------------------------------------------------
-- Signatures
------------------------------------------------------------

/- A scheme of signing requests. -/
inductive SignatureVersion where
  | v4
  | v2
  deriving DecidableEq, Repr, Inhabited

/- The name of a scheme in documents. -/
def SignatureVersion.name : SignatureVersion → String
  | .v4 => "v4"
  | .v2 => "v2"

/- The schemes by name. -/
def SignatureVersion.options :
    List (String × SignatureVersion) :=
  [("v4", .v4), ("v2", .v2)]

end ClientGen.Model
