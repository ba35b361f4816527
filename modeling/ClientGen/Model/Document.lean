import ClientGen.Model.Service

/-
  Service models as JSON documents.

  Key definitions include:
    * `Service.ofDocument`
    * `Service.toDocument`

  Reading takes each record's fields in any order and skips
  members it does not know.  Writing names every field, with
  `null` for what is absent, in the order of the record.
-/

namespace ClientGen.Model

open ClientGen.Json

------------------------------------------------------------
-- Reading
------------------------------------------------------------

/- Read the name of a protocol. -/
def readProtocol :
    Value → Except ReadError Protocol :=
  readParsed fun name =>
    match Protocol.ofName? name with
    | some p => .ok p
    | none => .error (unknownProtocolMessage name)

/- The record of a service's metadata. -/
def metadataRecord : Record Metadata where
  name := "ServiceMetadata"
  blank := Metadata.named "" "" .json
  fields := [
    Field.of "serviceName" true readText
      fun s m => { m with serviceName := s },
    Field.of "clientPackageName" true readText
      fun s m => { m with clientPackageName := s },
    Field.of "endpointPrefix" true readText
      fun s m => { m with endpointPrefix := s },
    Field.of "signingName" false (readOptional readText)
      fun s m => { m with signingName := s },
    Field.of "protocol" true readProtocol
      fun p m => { m with protocol := p },
    Field.of "jsonVersion" false (readOptional readText)
      fun s m => { m with jsonVersion := s },
    Field.of "contentType" false (readOptional readText)
      fun s m => { m with contentType := s },
    Field.of "baseExceptionName" false (readOptional readText)
      fun s m => { m with baseExceptionName := s },
    Field.of "signatureVersion" false
      (readVariant SignatureVersion.options)
      fun v m => { m with signatureVersion := v },
    Field.of "apiVersion" false (readOptional readText)
      fun s m => { m with apiVersion := s }]

/- The record of a service's customization. -/
def customizationRecord : Record Customization where
  name := "CustomizationConfig"
  blank := Customization.none
  fields := [
    Field.of "serviceSpecificClientConfigClass" false
      (readOptional readText)
      fun s c => { c with clientConfigClass := s },
    Field.of "presignersFqcn" false (readOptional readText)
      fun s c => { c with presignersClass := s },
    Field.of "calculateCrc32FromCompressedData" false readFlag
      fun b c =>
        { c with calculateCrc32FromCompressedData := b },
    Field.of "serviceSpecificHttpConfig" false
      (readOptional readText)
      fun s c => { c with httpConfig := s }]

/- The record of a variable. -/
def variableRecord : Record Variable where
  name := "VariableModel"
  blank := ⟨"", ""⟩
  fields := [
    Field.of "variableName" true readText
      fun s v => { v with name := s },
    Field.of "variableType" true readText
      fun s v => { v with type := s }]

/- The record of an operation. -/
def operationRecord : Record Operation where
  name := "OperationModel"
  blank := ⟨"", "", ⟨"", ""⟩, "", "", none, none, false⟩
  fields := [
    Field.of "name" true readText
      fun s o => { o with name := s },
    Field.of "methodName" true readText
      fun s o => { o with methodName := s },
    Field.of "input" true variableRecord.read
      fun v o => { o with input := v },
    Field.of "returnType" true readText
      fun s o => { o with returnType := s },
    Field.of "inputShape" true readText
      fun s o => { o with inputShape := s },
    Field.of "outputShape" false (readOptional readText)
      fun s o => { o with outputShape := s },
    Field.of "documentation" false (readOptional readText)
      fun s o => { o with documentation := s },
    Field.of "deprecated" false readFlag
      fun b o => { o with deprecated := b }]

/- The record of a shape. -/
def shapeRecord : Record Shape where
  name := "ShapeModel"
  blank := Shape.named "" .request
  fields := [
    Field.of "name" true readText
      fun s x => { x with name := s },
    Field.of "shapeType" true (readVariant ShapeType.options)
      fun t x => { x with type := t },
    Field.of "errorCode" false (readOptional readText)
      fun s x => { x with errorCode := s },
    Field.of "hasStreamingMember" false readFlag
      fun b x => { x with hasStreamingMember := b },
    Field.of "hasBlobMemberAsPayload" false readFlag
      fun b x => { x with hasBlobMemberAsPayload := b },
    Field.of "documentation" false (readOptional readText)
      fun s x => { x with documentation := s }]

/- Read a map of records, the last of each name winning. -/
def readMap
    {α : Type}
    (record : Record α)
    (v : Value) :
    Except ReadError (OrderedMap α) :=
  (readEntries record.read v).map OrderedMap.ofList

/- The record of a service. -/
def serviceRecord : Record Service where
  name := "ServiceModel"
  blank :=
    ⟨metadataRecord.blank, Customization.none,
      OrderedMap.empty, OrderedMap.empty, false⟩
  fields := [
    Field.of "metadata" true metadataRecord.read
      fun m s => { s with metadata := m },
    Field.of "customization" false customizationRecord.read
      fun c s => { s with customization := c },
    Field.of "operations" false (readMap operationRecord)
      fun os s => { s with operations := os },
    Field.of "shapes" false (readMap shapeRecord)
      fun xs s => { s with shapes := xs },
    Field.of "hasWaiters" false readFlag
      fun b s => { s with hasWaiters := b }]

/- The model that a text describes. -/
def Service.ofDocument
    (text : String) :
    Except ModelError Service :=
  match serviceRecord.readDocument text with
  | .error e => .error (.document e)
  | .ok s => s.check

------------------------------------------------------------
-- Writing
------------------------------------------------------------

/- A text that may be absent. -/
def writeOptional
    (s : Option String) :
    Value :=
  s.elim .null Value.ofString

/- Metadata as an object. -/
def writeMetadata
    (m : Metadata) :
    Value :=
  Value.ofMembers [
    ("serviceName", .ofString m.serviceName),
    ("clientPackageName", .ofString m.clientPackageName),
    ("endpointPrefix", .ofString m.endpointPrefix),
    ("signingName", writeOptional m.signingName),
    ("protocol", .ofString m.protocol.wireName),
    ("jsonVersion", writeOptional m.jsonVersion),
    ("contentType", writeOptional m.contentType),
    ("baseExceptionName", writeOptional m.baseExceptionName),
    ("signatureVersion", .ofString m.signatureVersion.name),
    ("apiVersion", writeOptional m.apiVersion)]

/- A customization as an object. -/
def writeCustomization
    (c : Customization) :
    Value :=
  Value.ofMembers [
    ("serviceSpecificClientConfigClass",
      writeOptional c.clientConfigClass),
    ("presignersFqcn", writeOptional c.presignersClass),
    ("calculateCrc32FromCompressedData",
      .bool c.calculateCrc32FromCompressedData),
    ("serviceSpecificHttpConfig", writeOptional c.httpConfig)]

/- A variable as an object. -/
def writeVariable
    (v : Variable) :
    Value :=
  Value.ofMembers [
    ("variableName", .ofString v.name),
    ("variableType", .ofString v.type)]

/- An operation as an object. -/
def writeOperation
    (o : Operation) :
    Value :=
  Value.ofMembers [
    ("name", .ofString o.name),
    ("methodName", .ofString o.methodName),
    ("input", writeVariable o.input),
    ("returnType", .ofString o.returnType),
    ("inputShape", .ofString o.inputShape),
    ("outputShape", writeOptional o.outputShape),
    ("documentation", writeOptional o.documentation),
    ("deprecated", .bool o.deprecated)]

/- A shape as an object. -/
def writeShape
    (x : Shape) :
    Value :=
  Value.ofMembers [
    ("name", .ofString x.name),
    ("shapeType", .ofString x.type.name),
    ("errorCode", writeOptional x.errorCode),
    ("hasStreamingMember", .bool x.hasStreamingMember),
    ("hasBlobMemberAsPayload",
      .bool x.hasBlobMemberAsPayload),
    ("documentation", writeOptional x.documentation)]

/- A map as an object, its entries in order. -/
def writeMap
    {α : Type}
    (write : α → Value)
    (m : OrderedMap α) :
    Value :=
  Value.ofMembers (m.entries.map fun (k, a) => (k, write a))

/- A service as an object. -/
def writeService
    (s : Service) :
    Value :=
  Value.ofMembers [
    ("metadata", writeMetadata s.metadata),
    ("customization", writeCustomization s.customization),
    ("operations", writeMap writeOperation s.operations),
    ("shapes", writeMap writeShape s.shapes),
    ("hasWaiters", .bool s.hasWaiters)]

/- The document of a model, without any space. -/
def Service.toDocument
    (s : Service) :
    String :=
  (writeService s).spell

end ClientGen.Model
