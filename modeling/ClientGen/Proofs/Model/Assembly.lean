import ClientGen.Proofs.Model.Presentation
import Mathlib.Data.List.Induction

/-
  A service put together from its pieces is the service that
  a document lists.

  Main declarations include:
    * `OrderedMap.Collects`
    * `OrderedMap.collects_ofList`
    * `listing`
    * `serviceRecord_read_listing`
    * `Service.ofDocument_eq_assemble`

  Both put the operations and the shapes into maps one after
  the other, so a name stands where it first came, with what
  came with it last.
-/

namespace ClientGen.Model

open ClientGen.Json ClientGen.Text

------------------------------------------------------------
-- Ordered Maps
------------------------------------------------------------

section

variable {α : Type}

/- The name that was put in has the new value. -/
theorem lookup_putEntry
    (name key : String)
    (value : α)
    (entries : List (String × α)) :
    (putEntry key value entries).lookup name =
      if name = key then some value
      else entries.lookup name := by
  induction entries with
  | nil =>
      rw [putEntry, List.lookup_cons]
      by_cases hName : name = key
      · simp [hName]
      · simp [hName, beq_false_of_ne hName]
  | cons entry rest ih =>
      rcases entry with ⟨k, v⟩
      by_cases hKey : k = key
      · rw [putEntry, if_pos hKey, List.lookup_cons,
          List.lookup_cons, hKey]
        by_cases hName : name = key
        · simp [hName]
        · simp [hName, beq_false_of_ne hName]
      · rw [putEntry, if_neg hKey, List.lookup_cons,
          List.lookup_cons, ih]
        by_cases hName : name = k
        · simp [hName, hKey]
        · simp [beq_false_of_ne hName]

namespace OrderedMap

/- Entries are put in from the first to the last. -/
theorem ofList_concat
    (entries : List (String × α))
    (key : String)
    (value : α) :
    ofList (entries ++ [(key, value)]) =
      (ofList entries).insert key value := by
  unfold ofList
  rw [List.foldl_append]
  rfl

/- A name is added only if it is new. -/
theorem keys_insert
    (m : OrderedMap α)
    (key : String)
    (value : α) :
    (m.insert key value).keys =
      if key ∈ m.keys then m.keys else m.keys ++ [key] := by
  by_cases hMem : key ∈ m.keys
  · rw [if_pos hMem]
    exact map_fst_putEntry_of_mem hMem
  · rw [if_neg hMem]
    exact map_fst_putEntry_of_not_mem hMem

/- Names are kept in the order in which they came first. -/
theorem keys_ofList
    (entries : List (String × α)) :
    (ofList entries).keys =
      (entries.map Prod.fst).eraseDups := by
  induction entries using List.reverseRecOn with
  | nil => rfl
  | append_singleton entries entry ih =>
      rcases entry with ⟨key, value⟩
      rw [ofList_concat, keys_insert, ih, List.map_append,
        List.eraseDups_append]
      by_cases hMem : key ∈ entries.map Prod.fst
      · simp [List.removeAll, hMem]
      · simp [List.removeAll, hMem, List.eraseDups_cons]

/- A name has the value that came with it last. -/
theorem get?_ofList
    (entries : List (String × α))
    (name : String) :
    (ofList entries).get? name =
      (entries.filter (·.1 == name)).getLast?.map
        Prod.snd := by
  induction entries using List.reverseRecOn with
  | nil => rfl
  | append_singleton entries entry ih =>
      rcases entry with ⟨key, value⟩
      have hInsert :
          ((ofList entries).insert key value).get? name =
            if name = key then some value
            else (ofList entries).get? name :=
        lookup_putEntry name key value _
      rw [ofList_concat, hInsert, ih, List.filter_append]
      by_cases hName : name = key
      · simp [hName]
      · simp [hName, Ne.symm hName]

/-
  The map holds what was given, by name: the names stand in
  the order in which they came first, each of them once, and
  each with what was given under it last.
-/
structure Collects
    (m : OrderedMap α)
    (name : α → String)
    (given : List α) :
    Prop where
  keys : m.keys = (given.map name).eraseDups
  nodup : m.keys.Nodup
  last :
    ∀ key, m.get? key =
      (given.filter (name · == key)).getLast?

/- What is put in under its own name is collected. -/
theorem collects_ofList
    (name : α → String)
    (given : List α) :
    (ofList (given.map fun a => (name a, a))).Collects name
      given where
  keys := by
    rw [keys_ofList, List.map_map]
    rfl
  nodup := nodup _
  last := by
    intro key
    rw [get?_ofList, List.filter_map, List.getLast?_map,
      Option.map_map]
    exact Option.map_id'

end OrderedMap

end

------------------------------------------------------------
-- Listings
------------------------------------------------------------

/- Data under its own names, in order. -/
def writeList
    {α : Type}
    (name : α → String)
    (write : α → Value)
    (given : List α) :
    Value :=
  .ofMembers (given.map fun a => (name a, write a))

/- A document that lists operations and shapes. -/
def listing
    (metadata : Metadata)
    (customization : Customization)
    (operations : List Operation)
    (shapes : List Shape)
    (hasWaiters : Bool) :
    Value :=
  .ofMembers [
    ("metadata", writeMetadata metadata),
    ("customization", writeCustomization customization),
    ("operations",
      writeList Operation.name writeOperation operations),
    ("shapes", writeList Shape.name writeShape shapes),
    ("hasWaiters", .bool hasWaiters)]

/- The service that is listed, before any check of it. -/
def collected
    (metadata : Metadata)
    (customization : Customization)
    (operations : List Operation)
    (shapes : List Shape)
    (hasWaiters : Bool) :
    Service where
  metadata
  customization
  operations :=
    OrderedMap.ofList (operations.map fun o => (o.name, o))
  shapes := OrderedMap.ofList (shapes.map fun x => (x.name, x))
  hasWaiters

/- A list is read into the map of its names. -/
theorem readMap_writeList
    {α : Type}
    {record : Record α}
    {write : α → Value}
    (hRead : ∀ a, record.read (write a) = .ok a)
    (name : α → String)
    (given : List α) :
    readMap record (writeList name write given) =
      .ok (.ofList (given.map fun a => (name a, a))) := by
  rw [← readMap_ofMembers hRead, List.map_map]
  rfl

/- A listing is read as what it lists. -/
theorem serviceRecord_read_listing
    (metadata : Metadata)
    (customization : Customization)
    (operations : List Operation)
    (shapes : List Shape)
    (hasWaiters : Bool) :
    serviceRecord.read
        (listing metadata customization operations shapes
          hasWaiters) =
      .ok (collected metadata customization operations shapes
        hasWaiters) := by
  apply Record.read_ofMembers (by decide)
  refine .field (metadataRecord_read _) ?_
  refine .field (customizationRecord_read _) ?_
  refine .field (readMap_writeList operationRecord_read _ _) ?_
  refine .field (readMap_writeList shapeRecord_read _ _) ?_
  refine .field (readFlag_bool _) ?_
  exact .nil _

/- A list of plain values is plain. -/
theorem writeList_isPlain
    {α : Type}
    {write : α → Value}
    (hWrite : ∀ a, (write a).isPlain = true)
    (name : α → String)
    (given : List α) :
    (writeList name write given).isPlain = true := by
  apply Value.isPlain_ofMembers
  intro member hMember
  rcases List.mem_map.mp hMember with ⟨a, _, rfl⟩
  exact hWrite a

/- So is a listing. -/
theorem listing_isPlain
    (metadata : Metadata)
    (customization : Customization)
    (operations : List Operation)
    (shapes : List Shape)
    (hasWaiters : Bool) :
    (listing metadata customization operations shapes
      hasWaiters).isPlain = true := by
  apply Value.isPlain_ofMembers
  simp [writeMetadata_isPlain, writeCustomization_isPlain,
    writeList_isPlain writeOperation_isPlain,
    writeList_isPlain writeShape_isPlain]

------------------------------------------------------------
-- Services
------------------------------------------------------------

namespace Service

/- A check lets a service pass unless a name is missing. -/
theorem check_cases
    (s : Service) :
    check s = .ok s ∨
      (trimmed s.metadata.serviceName = "" ∨
        trimmed s.metadata.clientPackageName = "") ∧
      ∃ what, check s = .error (.missing what) := by
  unfold check
  by_cases hName : trimmed s.metadata.serviceName = ""
  · rw [if_pos hName]
    exact .inr ⟨.inl hName, _, rfl⟩
  · rw [if_neg hName]
    by_cases hPackage :
        trimmed s.metadata.clientPackageName = ""
    · rw [if_pos hPackage]
      exact .inr ⟨.inr hPackage, _, rfl⟩
    · rw [if_neg hPackage]
      exact .inl rfl

/-
  What is put together from pieces is what any document gives
  that lists them, the error included.  Some text is such a
  document.  The only error there can be is that one of the
  two names of a service is missing, and without it the maps
  hold what was given by name.
-/
theorem ofDocument_eq_assemble
    (metadata : Metadata)
    (customization : Customization)
    (operations : List Operation)
    (shapes : List Shape)
    (hasWaiters : Bool) :
    (∃ text,
      (listing metadata customization operations shapes
        hasWaiters).SpelledAs text) ∧
    (∀ v text,
      Relation.ReflTransGen (Restated serviceForm)
          (listing metadata customization operations shapes
            hasWaiters) v →
        v.SpelledAs text →
          ofDocument text =
            assemble (some metadata) customization operations
              shapes hasWaiters) ∧
    ((∃ s,
      assemble (some metadata) customization operations shapes
        hasWaiters = .ok s ∧
        s.operations.Collects Operation.name operations ∧
        s.shapes.Collects Shape.name shapes) ∨
      (trimmed metadata.serviceName = "" ∨
        trimmed metadata.clientPackageName = "") ∧
      ∃ what,
        assemble (some metadata) customization operations
          shapes hasWaiters = .error (.missing what)) := by
  refine ⟨?_, ?_, ?_⟩
  · exact ⟨_, Value.spelledAs_spell (listing_isPlain _ _ _ _ _)⟩
  · intro v text hRestated hText
    have hRead :=
      serviceRecord_fits.read_restated hRestated
        (serviceRecord_read_listing metadata customization
          operations shapes hasWaiters)
    exact ofDocument_of_readDocument
      (Record.readDocument_of_spelled hText hRead)
  · rcases check_cases (collected metadata customization
        operations shapes hasWaiters) with
      hOk | ⟨hBlank, what, hMissing⟩
    · refine .inl ⟨_, hOk, ?_, ?_⟩
      · exact OrderedMap.collects_ofList _ operations
      · exact OrderedMap.collects_ofList _ shapes
    · exact .inr ⟨hBlank, what, hMissing⟩

/- Two operations, the first of which is given once more. -/
def repeatedOperations :
    List Operation :=
  [Operation.named "Send", Operation.named "Receive",
   { Operation.named "Send" with deprecated := true }]

/- It stays first and has the value it was given last. -/
theorem ofDocument_eq_assemble_queue :
    ∃ text s,
      ofDocument text = .ok s ∧
        assemble (some queue.metadata) Customization.none
          repeatedOperations [] false = .ok s ∧
        s.operations.keys = ["Send", "Receive"] ∧
        s.operations.get? "Send" =
          some
            { Operation.named "Send" with
              deprecated := true } := by
  rcases ofDocument_eq_assemble queue.metadata
      Customization.none repeatedOperations [] false with
    ⟨⟨text, hText⟩, hSame, hOutcome⟩
  have hRead := hSame _ text .refl hText
  rcases hOutcome with
    ⟨s, hMade, hOperations, -⟩ | ⟨hBlank, -⟩
  · refine ⟨text, s, hRead.trans hMade, hMade, ?_, ?_⟩
    · rw [hOperations.keys]
      decide
    · rw [hOperations.last]
      rfl
  · have hNamed :
        ¬(trimmed queue.metadata.serviceName = "" ∨
          trimmed queue.metadata.clientPackageName = "") := by
      decide
    exact absurd hBlank hNamed

end Service

end ClientGen.Model
