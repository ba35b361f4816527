import ClientGen.Model.Document
import ClientGen.Proofs.Json.Reading
import ClientGen.Proofs.Json.Records

/-
  A service that was written is read again.

  Main declarations include:
    * `OrderedMap.ofList_entries`
    * `metadataRecord_read`
    * `operationRecord_read`
    * `shapeRecord_read`
    * `serviceRecord_read`
    * `Service.ofDocument_toDocument`

  Every record is written with all its fields in the order
  in which they are listed, and each of them is read as what
  it was written from.
-/

namespace ClientGen.Model

open ClientGen.Json ClientGen.Text

------------------------------------------------------------
-- Ordered Maps
------------------------------------------------------------

section

variable {α : Type}

/- A new name is put in at the end. -/
theorem putEntry_of_not_mem
    {key : String}
    {value : α}
    {entries : List (String × α)}
    (hNew : key ∉ entries.map Prod.fst) :
    putEntry key value entries = entries ++ [(key, value)] := by
  induction entries with
  | nil => rfl
  | cons entry rest ih =>
      rw [List.map_cons, List.mem_cons, not_or] at hNew
      rw [putEntry, if_neg (Ne.symm hNew.1), ih hNew.2]
      rfl

/- Maps are known by their entries. -/
theorem OrderedMap.eq_of_entries_eq
    {m n : OrderedMap α}
    (hEntries : m.entries = n.entries) :
    m = n := by
  cases m
  cases n
  cases hEntries
  rfl

/- The entries of a map give the map again. -/
theorem OrderedMap.ofList_entries
    (m : OrderedMap α) :
    ofList m.entries = m := by
  suffices hFold :
      ∀ (after : List (String × α)) (before : OrderedMap α),
        ((before.entries ++ after).map Prod.fst).Nodup →
          (after.foldl
              (fun m entry => m.insert entry.1 entry.2)
              before).entries =
            before.entries ++ after by
    apply OrderedMap.eq_of_entries_eq
    exact hFold m.entries empty m.nodup
  intro after
  induction after with
  | nil =>
      intro before _
      exact (List.append_nil _).symm
  | cons entry after ih =>
      intro before hNodup
      rcases entry with ⟨key, value⟩
      have hNew : key ∉ before.entries.map Prod.fst := by
        rw [List.map_append, List.nodup_append] at hNodup
        intro hMem
        exact hNodup.2.2 key hMem key
          (by simp) rfl
      have hInsert :
          (before.insert key value).entries =
            before.entries ++ [(key, value)] :=
        putEntry_of_not_mem hNew
      rw [List.foldl_cons, ih, hInsert, List.append_assoc]
      · rfl
      · rw [hInsert, List.append_assoc]
        exact hNodup

end

------------------------------------------------------------
-- Fields
------------------------------------------------------------

/- A text that may be absent is read as it was written. -/
theorem readOptional_writeOptional
    (s : Option String) :
    readOptional readText (writeOptional s) = .ok s := by
  cases s <;> rfl

/- A protocol is read from its name. -/
theorem readProtocol_wireName
    (p : Protocol) :
    readProtocol (.ofString p.wireName) = .ok p := by
  have hName : Protocol.ofName? p.wireName = some p := by
    cases p <;> decide
  unfold readProtocol
  apply readParsed_ofString
  rw [hName]

/- So is a scheme of signing. -/
theorem readVariant_signatureVersion
    (v : SignatureVersion) :
    readVariant SignatureVersion.options (.ofString v.name) =
      .ok v := by
  apply readVariant_ofString
  cases v <;> decide

/- So is the type of a shape. -/
theorem readVariant_shapeType
    (t : ShapeType) :
    readVariant ShapeType.options (.ofString t.name) =
      .ok t := by
  apply readVariant_ofString
  cases t <;> decide

------------------------------------------------------------
-- Records
------------------------------------------------------------

/- Metadata is read as it was written. -/
theorem metadataRecord_read
    (m : Metadata) :
    metadataRecord.read (writeMetadata m) = .ok m := by
  apply Record.read_ofMembers (by decide)
  refine .field (readText_ofString _) ?_
  refine .field (readText_ofString _) ?_
  refine .field (readText_ofString _) ?_
  refine .field (readOptional_writeOptional _) ?_
  refine .field (readProtocol_wireName _) ?_
  refine .field (readOptional_writeOptional _) ?_
  refine .field (readOptional_writeOptional _) ?_
  refine .field (readOptional_writeOptional _) ?_
  refine .field (readVariant_signatureVersion _) ?_
  refine .field (readOptional_writeOptional _) ?_
  exact .nil m

/- So is a customization. -/
theorem customizationRecord_read
    (c : Customization) :
    customizationRecord.read (writeCustomization c) =
      .ok c := by
  apply Record.read_ofMembers (by decide)
  refine .field (readOptional_writeOptional _) ?_
  refine .field (readOptional_writeOptional _) ?_
  refine .field (readFlag_bool _) ?_
  refine .field (readOptional_writeOptional _) ?_
  exact .nil c

/- So is a variable. -/
theorem variableRecord_read
    (v : Variable) :
    variableRecord.read (writeVariable v) = .ok v := by
  apply Record.read_ofMembers (by decide)
  refine .field (readText_ofString _) ?_
  refine .field (readText_ofString _) ?_
  exact .nil v

/- So is an operation. -/
theorem operationRecord_read
    (o : Operation) :
    operationRecord.read (writeOperation o) = .ok o := by
  apply Record.read_ofMembers (by decide)
  refine .field (readText_ofString _) ?_
  refine .field (readText_ofString _) ?_
  refine .field (variableRecord_read _) ?_
  refine .field (readText_ofString _) ?_
  refine .field (readText_ofString _) ?_
  refine .field (readOptional_writeOptional _) ?_
  refine .field (readOptional_writeOptional _) ?_
  refine .field (readFlag_bool _) ?_
  exact .nil o

/- So is a shape. -/
theorem shapeRecord_read
    (x : Shape) :
    shapeRecord.read (writeShape x) = .ok x := by
  apply Record.read_ofMembers (by decide)
  refine .field (readText_ofString _) ?_
  refine .field (readVariant_shapeType _) ?_
  refine .field (readOptional_writeOptional _) ?_
  refine .field (readFlag_bool _) ?_
  refine .field (readFlag_bool _) ?_
  refine .field (readOptional_writeOptional _) ?_
  exact .nil x

/- A map of records is read from its entries, in order. -/
theorem readMap_ofMembers
    {α : Type}
    {record : Record α}
    {write : α → Value}
    (hRead : ∀ a, record.read (write a) = .ok a)
    (entries : List (String × α)) :
    readMap record
        (.ofMembers (entries.map fun (k, a) => (k, write a))) =
      .ok (OrderedMap.ofList entries) := by
  unfold readMap
  rw [readEntries_ofMembers hRead, Except.map]

/- A map of records keeps its names and their order. -/
theorem readMap_writeMap
    {α : Type}
    {record : Record α}
    {write : α → Value}
    (hRead : ∀ a, record.read (write a) = .ok a)
    (m : OrderedMap α) :
    readMap record (writeMap write m) = .ok m := by
  unfold writeMap
  rw [readMap_ofMembers hRead, OrderedMap.ofList_entries]

/- A service is read as it was written. -/
theorem serviceRecord_read
    (s : Service) :
    serviceRecord.read (writeService s) = .ok s := by
  apply Record.read_ofMembers (by decide)
  refine .field (metadataRecord_read _) ?_
  refine .field (customizationRecord_read _) ?_
  refine .field (readMap_writeMap operationRecord_read _) ?_
  refine .field (readMap_writeMap shapeRecord_read _) ?_
  refine .field (readFlag_bool _) ?_
  exact .nil s

------------------------------------------------------------
-- Plain Values
------------------------------------------------------------

/- What may be absent is written as a plain value. -/
@[simp]
theorem writeOptional_isPlain
    (s : Option String) :
    (writeOptional s).isPlain = true := by
  cases s <;> rfl

/- A truth value is plain. -/
@[simp]
theorem isPlain_bool
    (b : Bool) :
    (Value.bool b).isPlain = true :=
  rfl

/- Metadata is written as a plain value. -/
theorem writeMetadata_isPlain
    (m : Metadata) :
    (writeMetadata m).isPlain = true := by
  apply Value.isPlain_ofMembers
  simp

/- So is a customization. -/
theorem writeCustomization_isPlain
    (c : Customization) :
    (writeCustomization c).isPlain = true := by
  apply Value.isPlain_ofMembers
  simp

/- So is an operation, with its variable. -/
theorem writeOperation_isPlain
    (o : Operation) :
    (writeOperation o).isPlain = true := by
  have hInput : (writeVariable o.input).isPlain = true := by
    apply Value.isPlain_ofMembers
    simp
  apply Value.isPlain_ofMembers
  simp [hInput]

/- So is a shape. -/
theorem writeShape_isPlain
    (x : Shape) :
    (writeShape x).isPlain = true := by
  apply Value.isPlain_ofMembers
  simp

/- So is a map of such values. -/
theorem writeMap_isPlain
    {α : Type}
    {write : α → Value}
    (hWrite : ∀ a, (write a).isPlain = true)
    (m : OrderedMap α) :
    (writeMap write m).isPlain = true := by
  apply Value.isPlain_ofMembers
  intro member hMember
  rcases List.mem_map.mp hMember with ⟨entry, _, rfl⟩
  exact hWrite entry.2

/- So is a service. -/
theorem writeService_isPlain
    (s : Service) :
    (writeService s).isPlain = true := by
  apply Value.isPlain_ofMembers
  simp [writeMetadata_isPlain, writeCustomization_isPlain,
    writeMap_isPlain writeOperation_isPlain,
    writeMap_isPlain writeShape_isPlain]

------------------------------------------------------------
-- Services
------------------------------------------------------------

namespace Service

/- A service passes the check as it is, or not at all. -/
theorem check_eq_ok_iff
    {s t : Service} :
    check s = .ok t ↔
      s = t ∧ trimmed s.metadata.serviceName ≠ "" ∧
        trimmed s.metadata.clientPackageName ≠ "" := by
  unfold check
  by_cases hName : trimmed s.metadata.serviceName = ""
  · simp [hName]
  · by_cases hPackage :
        trimmed s.metadata.clientPackageName = ""
    · simp [hPackage, hName]
    · simp [hName, hPackage]

/- A service that came out of the check passes it again. -/
theorem check_eq_ok_of_built
    {s : Service}
    (hBuilt :
      (∃ text, ofDocument text = .ok s) ∨
        ∃ metadata customization operations shapes hasWaiters,
          assemble metadata customization operations shapes
            hasWaiters = .ok s) :
    check s = .ok s := by
  have hChecked : ∃ t, check t = .ok s := by
    rcases hBuilt with
      ⟨text, hRead⟩ | ⟨metadata, c, operations, shapes, w, hMade⟩
    · unfold ofDocument at hRead
      cases hRecord : serviceRecord.readDocument text with
      | error e =>
          rw [hRecord] at hRead
          cases hRead
      | ok t =>
          rw [hRecord] at hRead
          exact ⟨t, hRead⟩
    · unfold assemble at hMade
      cases metadata with
      | none => cases hMade
      | some m => exact ⟨_, hMade⟩
  rcases hChecked with ⟨t, hCheck⟩
  have hSame := (check_eq_ok_iff.mp hCheck).1
  rwa [hSame] at hCheck

/-
  A service that was read from a document or put together
  from its pieces is the one that its own document describes.
-/
theorem ofDocument_toDocument
    (s : Service)
    (hBuilt :
      (∃ text, ofDocument text = .ok s) ∨
        ∃ metadata customization operations shapes hasWaiters,
          assemble metadata customization operations shapes
            hasWaiters = .ok s) :
    ofDocument s.toDocument = .ok s := by
  have hDocument :=
    Document.ofText_spell (writeService_isPlain s)
  unfold ofDocument toDocument
  rw [Record.readDocument_spell hDocument
    (serviceRecord_read s)]
  exact check_eq_ok_of_built hBuilt

/- A service with an operation and a documented exception. -/
def queue : Service where
  metadata := Metadata.named "Queue" "com.example" .json
  customization := Customization.none
  operations :=
    OrderedMap.ofList [("Send", Operation.named "Send")]
  shapes :=
    OrderedMap.ofList
      [("Full",
        { Shape.named "Full" .exception with
          documentation := some "The queue is \"full\".\n" })]
  hasWaiters := false

/- It is put together from its pieces. -/
theorem ofDocument_toDocument_queue :
    ofDocument queue.toDocument = .ok queue := by
  have hCheck : check queue = .ok queue :=
    check_eq_ok_iff.mpr ⟨rfl, by decide, by decide⟩
  apply ofDocument_toDocument
  exact .inr ⟨some queue.metadata, queue.customization,
    queue.operations.values, queue.shapes.values,
    queue.hasWaiters, hCheck⟩

end Service

end ClientGen.Model
