import ClientGen.Proofs.Json.Presentation
import ClientGen.Proofs.Model.RoundTrip

/-
  A service is read alike from all documents that present it.

  Main declarations include:
    * `serviceForm`
    * `serviceRecord_fits`
    * `Service.ofDocument_of_restated`

  The form of a service says where its records are: the
  service itself, its metadata and customization, and each
  operation, the input of one and each shape.
-/

namespace ClientGen.Model

open ClientGen.Json ClientGen.Text

------------------------------------------------------------
-- Forms
------------------------------------------------------------

/- A field that has to be there. -/
def requiredField
    (name : String)
    (form : Form) :
    String × Form × Option Value :=
  (name, form, none)

/- A field that says nothing new if it has that value. -/
def optionalField
    (name : String)
    (form : Form)
    (absent : Value) :
    String × Form × Option Value :=
  (name, form, some absent)

/- The fields of metadata. -/
def metadataFields :
    List (String × Form × Option Value) :=
  [requiredField "serviceName" .plain,
   requiredField "clientPackageName" .plain,
   requiredField "endpointPrefix" .plain,
   optionalField "signingName" .plain .null,
   requiredField "protocol" .plain,
   optionalField "jsonVersion" .plain .null,
   optionalField "contentType" .plain .null,
   optionalField "baseExceptionName" .plain .null,
   optionalField "signatureVersion" .plain (.ofString "v4"),
   optionalField "apiVersion" .plain .null]

/- The fields of a customization. -/
def customizationFields :
    List (String × Form × Option Value) :=
  [optionalField "serviceSpecificClientConfigClass" .plain
     .null,
   optionalField "presignersFqcn" .plain .null,
   optionalField "calculateCrc32FromCompressedData" .plain
     (.bool false),
   optionalField "serviceSpecificHttpConfig" .plain .null]

/- The fields of a variable. -/
def variableFields :
    List (String × Form × Option Value) :=
  [requiredField "variableName" .plain,
   requiredField "variableType" .plain]

/- The fields of an operation. -/
def operationFields :
    List (String × Form × Option Value) :=
  [requiredField "name" .plain,
   requiredField "methodName" .plain,
   requiredField "input" (.record variableFields),
   requiredField "returnType" .plain,
   requiredField "inputShape" .plain,
   optionalField "outputShape" .plain .null,
   optionalField "documentation" .plain .null,
   optionalField "deprecated" .plain (.bool false)]

/- The fields of a shape. -/
def shapeFields :
    List (String × Form × Option Value) :=
  [requiredField "name" .plain,
   requiredField "shapeType" .plain,
   optionalField "errorCode" .plain .null,
   optionalField "hasStreamingMember" .plain (.bool false),
   optionalField "hasBlobMemberAsPayload" .plain
     (.bool false),
   optionalField "documentation" .plain .null]

/- The fields of a service. -/
def serviceFields :
    List (String × Form × Option Value) :=
  [requiredField "metadata" (.record metadataFields),
   optionalField "customization" (.record customizationFields)
     (.ofMembers []),
   optionalField "operations"
     (.entries (.record operationFields)) (.ofMembers []),
   optionalField "shapes" (.entries (.record shapeFields))
     (.ofMembers []),
   optionalField "hasWaiters" .plain (.bool false)]

/- What a service looks like in a document. -/
def serviceForm :
    Form :=
  .record serviceFields

------------------------------------------------------------
-- Records
------------------------------------------------------------

/- Metadata is read by the fields of its form. -/
theorem metadataRecord_fits :
    metadataRecord.Fits metadataFields where
  keys := by decide
  commute := by
    simp [metadataRecord, Field.Commute.of]
  each := by
    refine .cons (.required (.plain _)) ?_
    refine .cons (.required (.plain _)) ?_
    refine .cons (.required (.plain _)) ?_
    refine .cons (.optional (.plain _) rfl rfl) ?_
    refine .cons (.required (.plain _)) ?_
    refine .cons (.optional (.plain _) rfl rfl) ?_
    refine .cons (.optional (.plain _) rfl rfl) ?_
    refine .cons (.optional (.plain _) rfl rfl) ?_
    refine .cons (.optional (.plain _) rfl rfl) ?_
    refine .cons (.optional (.plain _) rfl rfl) ?_
    exact .nil

/- So is a customization. -/
theorem customizationRecord_fits :
    customizationRecord.Fits customizationFields where
  keys := by decide
  commute := by
    simp [customizationRecord, Field.Commute.of]
  each := by
    refine .cons (.optional (.plain _) rfl rfl) ?_
    refine .cons (.optional (.plain _) rfl rfl) ?_
    refine .cons (.optional (.plain _) rfl rfl) ?_
    refine .cons (.optional (.plain _) rfl rfl) ?_
    exact .nil

/- So is a variable. -/
theorem variableRecord_fits :
    variableRecord.Fits variableFields where
  keys := by decide
  commute := by
    simp [variableRecord, Field.Commute.of]
  each := by
    refine .cons (.required (.plain _)) ?_
    refine .cons (.required (.plain _)) ?_
    exact .nil

/- So is an operation, whose input is a record itself. -/
theorem operationRecord_fits :
    operationRecord.Fits operationFields where
  keys := by decide
  commute := by
    simp [operationRecord, Field.Commute.of]
  each := by
    refine .cons (.required (.plain _)) ?_
    refine .cons (.required (.plain _)) ?_
    refine .cons (.required variableRecord_fits.respects) ?_
    refine .cons (.required (.plain _)) ?_
    refine .cons (.required (.plain _)) ?_
    refine .cons (.optional (.plain _) rfl rfl) ?_
    refine .cons (.optional (.plain _) rfl rfl) ?_
    refine .cons (.optional (.plain _) rfl rfl) ?_
    exact .nil

/- So is a shape. -/
theorem shapeRecord_fits :
    shapeRecord.Fits shapeFields where
  keys := by decide
  commute := by
    simp [shapeRecord, Field.Commute.of]
  each := by
    refine .cons (.required (.plain _)) ?_
    refine .cons (.required (.plain _)) ?_
    refine .cons (.optional (.plain _) rfl rfl) ?_
    refine .cons (.optional (.plain _) rfl rfl) ?_
    refine .cons (.optional (.plain _) rfl rfl) ?_
    refine .cons (.optional (.plain _) rfl rfl) ?_
    exact .nil

/- A map of records is read alike from its records anew. -/
theorem readMap_respects
    {α : Type}
    {record : Record α}
    {fields : List (String × Form × Option Value)}
    (hFits : record.Fits fields) :
    Respects (.entries (.record fields)) (readMap record) :=
  (Respects.entries hFits.respects).map OrderedMap.ofList

/- A service is read by the fields of its form. -/
theorem serviceRecord_fits :
    serviceRecord.Fits serviceFields where
  keys := by decide
  commute := by
    simp [serviceRecord, Field.Commute.of]
  each := by
    refine .cons (.required metadataRecord_fits.respects) ?_
    refine .cons
      (.optional customizationRecord_fits.respects rfl rfl) ?_
    refine .cons
      (.optional (readMap_respects operationRecord_fits) rfl
        rfl) ?_
    refine .cons
      (.optional (readMap_respects shapeRecord_fits) rfl
        rfl) ?_
    refine .cons (.optional (.plain _) rfl rfl) ?_
    exact .nil

------------------------------------------------------------
-- Services
------------------------------------------------------------

namespace Service

/- What has been read of a document is checked. -/
theorem ofDocument_of_readDocument
    {text : String}
    {s : Service}
    (hRead : serviceRecord.readDocument text = .ok s) :
    ofDocument text = check s := by
  unfold ofDocument
  rw [hRead]

/- A model was read from the record of a document. -/
theorem ofDocument_eq_ok_iff
    {text : String}
    {s : Service} :
    ofDocument text = .ok s ↔
      ∃ t, serviceRecord.readDocument text = .ok t ∧
        check t = .ok s := by
  unfold ofDocument
  cases serviceRecord.readDocument text <;> simp

/-
  A document that is accepted is the text of one value, and
  any other text of that value is accepted as the same model,
  as is any text of the value restated: with the members of
  its records in any order, with members that are not known,
  and without members that only say what is so anyway.
-/
theorem ofDocument_of_restated
    {text : String}
    {s : Service}
    (hRead : ofDocument text = .ok s) :
    ∃ v : Value,
      (∀ u : Value, u.SpelledAs text ↔ u = v) ∧
        ∀ w other,
          Relation.ReflTransGen (Restated serviceForm) v w →
            w.SpelledAs other →
              ofDocument other = .ok s := by
  rcases ofDocument_eq_ok_iff.mp hRead with
    ⟨t, hRecord, hCheck⟩
  rcases Record.exists_spelled_of_readDocument hRecord with
    ⟨v, hText, hV⟩
  refine ⟨v, ?_, ?_⟩
  · intro u
    constructor
    · exact fun hU => hU.unique hText
    · rintro rfl
      exact hText
  · intro w other hRestated hOther
    have hW := serviceRecord_fits.read_restated hRestated hV
    rw [ofDocument_of_readDocument
      (Record.readDocument_of_spelled hOther hW)]
    exact hCheck

/- What is said of the queue, besides that nothing waits. -/
def queueMembers :
    List (String × Value) :=
  [("metadata", writeMetadata queue.metadata),
   ("customization", writeCustomization queue.customization),
   ("operations", writeMap writeOperation queue.operations),
   ("shapes", writeMap writeShape queue.shapes)]

/- The queue with a remark, its members the other way round. -/
def remarkedQueue :
    Value :=
  .ofMembers
    (("remark", .array [.null, .ofString "shapes"] .closed) ::
      queueMembers.reverse)

/- It can be written as it is. -/
theorem remarkedQueue_isPlain :
    remarkedQueue.isPlain = true := by
  apply Value.isPlain_ofMembers
  simp [queueMembers, writeMetadata_isPlain,
    writeCustomization_isPlain,
    writeMap_isPlain writeOperation_isPlain,
    writeMap_isPlain writeShape_isPlain, Value.isPlain,
    itemsPlain]

/- It is the queue as it is written, presented anew. -/
theorem remarkedQueue_restated :
    Relation.ReflTransGen (Restated serviceForm)
      (writeService queue) remarkedQueue := by
  have hLeaveOut :=
    @Restated.leaveOut serviceFields
      (queueMembers.map fun m => (some m.1, m.2)) []
      "hasWaiters" .plain (.bool false)
      (by simp [serviceFields, optionalField])
  have hRemark :
      (Value.array [.null, .ofString "shapes"]
        .closed).IsWellFormed :=
    ⟨_, Value.spelledAs_spell rfl⟩
  have hAdd :=
    @Restated.add serviceFields
      (queueMembers.map fun m => (some m.1, m.2)) [] "remark"
      _ (by decide) hRemark
  refine .head hLeaveOut (.head hAdd (.single (.reorder ?_)))
  exact (List.reverse_perm _).symm

/- It is still the queue, and so it is behind a new line. -/
theorem ofDocument_of_restated_queue :
    ofDocument queue.toDocument = .ok queue ∧
      ofDocument ("\n  " ++ remarkedQueue.spell) =
        .ok queue := by
  have hQueue :=
    Value.spelledAs_spell (writeService_isPlain queue)
  have hRead : ofDocument queue.toDocument = .ok queue :=
    ofDocument_eq_ok_iff.mpr
      ⟨queue,
        Record.readDocument_of_spelled hQueue
          (serviceRecord_read queue),
        check_eq_ok_iff.mpr ⟨rfl, by decide, by decide⟩⟩
  rcases ofDocument_of_restated hRead with ⟨v, hV, hAll⟩
  cases (hV (writeService queue)).mp hQueue
  refine ⟨hRead, hAll _ _ remarkedQueue_restated ?_⟩
  apply Value.SpelledAs.spacing_append
  · exact Value.spelledAs_spell remarkedQueue_isPlain
  · intro c hC
    have hSpace : c = '\n' ∨ c = ' ' := by simpa using hC
    rcases hSpace with rfl | rfl
    · rfl
    · rfl

end Service

end ClientGen.Model
