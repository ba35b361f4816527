import ClientGen.Json.Record

/-
  What it means that a record has been read, and records read
  from objects that name every field in order.

  Main declarations include:
    * `Record.readMembersInto_cons_eq_ok_iff`
    * `Record.readItemsInto_cons_eq_ok_iff`
    * `readMembers_cons_eq_ok_iff`
    * `Record.Reads`
    * `Record.readMembersInto_reads`
    * `Record.read_ofMembers`
    * `readEntries_ofMembers`

  Members, items and entries are read one at a time.  Fields
  are found by name, and each name is new as long as the
  fields have different ones.  So what an object of all
  fields is read as can be told field by field.
-/

namespace ClientGen.Json

------------------------------------------------------------
-- Simple Data
------------------------------------------------------------

/- A text is read from its value. -/
@[simp]
theorem readText_ofString
    (s : String) :
    readText (.ofString s) = .ok s :=
  rfl

/- A truth value is read from its value. -/
@[simp]
theorem readFlag_bool
    (b : Bool) :
    readFlag (.bool b) = .ok b :=
  rfl

/- A parsed text is read if it is accepted. -/
theorem readParsed_ofString
    {α : Type}
    {parse : String → Except String α}
    {s : String}
    {a : α}
    (hParse : parse s = .ok a) :
    readParsed parse (.ofString s) = .ok a := by
  unfold readParsed
  rw [readText_ofString]
  simp only [bind, Except.bind]
  rw [hParse]

/- A variant is read from its name. -/
theorem readVariant_ofString
    {α : Type}
    {options : List (String × α)}
    {name : String}
    {a : α}
    (hLookup : options.lookup name = some a) :
    readVariant options (.ofString name) = .ok a := by
  have hFind :
      readVariant options (.ofString name) =
        findVariant options name :=
    rfl
  rw [hFind, findVariant, hLookup]

/- An entry has a name and a value that can be read. -/
theorem readMembers_cons_eq_ok_iff
    {α : Type}
    {read : Value → Except ReadError α}
    {ending : Ending}
    {key : Option String}
    {v : Value}
    {rest : List Member}
    {entries : List (String × α)} :
    readMembers read ending ((key, v) :: rest) = .ok entries ↔
      ∃ name a more, key = some name ∧ read v = .ok a ∧
        readMembers read ending rest = .ok more ∧
          (name, a) :: more = entries := by
  cases key with
  | none => simp [readMembers]
  | some name =>
      cases hRead : read v with
      | error e => simp [readMembers, hRead, bind, Except.bind]
      | ok a =>
          cases hRest : readMembers read ending rest with
          | error e =>
              simp [readMembers, hRead, hRest, bind,
                Except.bind]
          | ok more =>
              simp [readMembers, hRead, hRest, bind,
                Except.bind]

/- Entries are read from the values they are written as. -/
theorem readEntries_ofMembers
    {α : Type}
    {read : Value → Except ReadError α}
    {write : α → Value}
    (hRead : ∀ a, read (write a) = .ok a)
    (entries : List (String × α)) :
    readEntries read
        (.ofMembers (entries.map fun (k, a) => (k, write a))) =
      .ok entries := by
  unfold Value.ofMembers
  rw [List.map_map, readEntries]
  induction entries with
  | nil => rfl
  | cons entry rest ih =>
      simp only [List.map_cons, Function.comp_apply,
        readMembers, hRead, bind, Except.bind]
      rw [ih]

------------------------------------------------------------
-- Records
------------------------------------------------------------

namespace Record

variable {α : Type}

/- Members end where nothing is missing. -/
theorem readMembersInto_nil_eq_ok_iff
    {r : Record α}
    {ending : Ending}
    {seen : List String}
    {x y : α} :
    r.readMembersInto ending [] seen x = .ok y ↔
      ending = .closed ∧ r.missing? seen = none ∧ x = y := by
  cases ending with
  | stopped => simp [readMembersInto]
  | closed =>
      cases hMissing : r.missing? seen with
      | none => simp [readMembersInto, hMissing]
      | some f => simp [readMembersInto, hMissing]

/-
  A member is skipped if no field has its name, and sets the
  field of its name otherwise.
-/
theorem readMembersInto_cons_eq_ok_iff
    {r : Record α}
    {ending : Ending}
    {name : String}
    {v : Value}
    {rest : List Member}
    {seen : List String}
    {x y : α} :
    r.readMembersInto ending ((some name, v) :: rest) seen x =
        .ok y ↔
      (r.field? name = none ∧ v.isComplete = true ∧
        r.readMembersInto ending rest seen x = .ok y) ∨
      ∃ f set, r.field? name = some f ∧ name ∉ seen ∧
        f.read v = .ok set ∧
          r.readMembersInto ending rest (name :: seen)
            (set x) = .ok y := by
  cases hField : r.field? name with
  | none =>
      by_cases hComplete : v.isComplete = true <;>
        simp [readMembersInto, hField, hComplete]
  | some f =>
      cases hRead : f.read v with
      | error e =>
          by_cases hSeen : name ∈ seen <;>
            simp [readMembersInto, hField, hRead, hSeen]
      | ok set =>
          by_cases hSeen : name ∈ seen <;>
            simp [readMembersInto, hField, hRead, hSeen]

/- An item sets the field in its place. -/
theorem readItemsInto_cons_eq_ok_iff
    {r : Record α}
    {ending : Ending}
    {f : Field α}
    {fields : List (Field α)}
    {v : Value}
    {items : List Value}
    {index : Nat}
    {x y : α} :
    r.readItemsInto ending (f :: fields) (v :: items) index x =
        .ok y ↔
      ∃ set, f.read v = .ok set ∧
        r.readItemsInto ending fields items (index + 1)
          (set x) = .ok y := by
  cases hRead : f.read v with
  | error e => simp [readItemsInto, hRead]
  | ok set => simp [readItemsInto, hRead]

/-
  The fields read members of their names one by one, which
  turns the first record into the second.
-/
inductive Reads :
    List (Field α) → List (String × Value) → α → α → Prop where
  | nil (x : α) : Reads [] [] x x
  | cons
      {f : Field α}
      {fields : List (Field α)}
      {v : Value}
      {members : List (String × Value)}
      {set : α → α}
      {x y : α}
      (hRead : f.read v = .ok set)
      (hRest : Reads fields members (set x) y) :
      Reads (f :: fields) ((f.key, v) :: members) x y

/- A field sets what its value is read as. -/
theorem Reads.field
    {β : Type}
    {key : String}
    {isRequired : Bool}
    {read : Value → Except ReadError β}
    {set : β → α → α}
    {fields : List (Field α)}
    {v : Value}
    {b : β}
    {members : List (String × Value)}
    {x y : α}
    (hRead : read v = .ok b)
    (hRest : Reads fields members (set b x) y) :
    Reads (Field.of key isRequired read set :: fields)
      ((key, v) :: members) x y := by
  have hField :
      (Field.of key isRequired read set).read v =
        .ok (set b) := by
    simp only [Field.of, hRead]
    rfl
  exact .cons hField hRest

/- A field is found by its name if no field before has it. -/
theorem field?_eq_some
    {r : Record α}
    {before after : List (Field α)}
    {f : Field α}
    (hFields : r.fields = before ++ f :: after)
    (hNew : ∀ other ∈ before, other.key ≠ f.key) :
    r.field? f.key = some f := by
  unfold field?
  rw [hFields, List.find?_append, List.find?_eq_none.mpr,
    Option.none_or, List.find?_cons_of_pos (by simp)]
  intro other hOther
  simpa using hNew other hOther

/-
  Members are read into the fields that are left, the names
  of those before having been seen.
-/
theorem readMembersInto_reads
    {r : Record α}
    (hKeys : (r.fields.map Field.key).Nodup)
    {before after : List (Field α)}
    {members : List (String × Value)}
    {seen : List String}
    {x y : α}
    (hReads : Reads after members x y)
    (hFields : r.fields = before ++ after)
    (hSeen : ∀ key, key ∈ seen ↔ key ∈ before.map Field.key) :
    r.readMembersInto .closed
        (members.map fun (k, v) => (some k, v)) seen x =
      .ok y := by
  induction hReads generalizing before seen with
  | nil x =>
      have hNone : r.missing? seen = none := by
        unfold missing?
        rw [List.find?_eq_none]
        intro f hF
        rw [hFields, List.append_nil] at hF
        have hMem : f.key ∈ seen :=
          (hSeen _).mpr (List.mem_map_of_mem hF)
        simp [hMem]
      simp only [List.map_nil, readMembersInto]
      rw [hNone]
      rfl
  | @cons f fields v members set x y hRead hRest ih =>
      rw [hFields, List.map_append, List.nodup_append]
        at hKeys
      have hNew : ∀ other ∈ before, other.key ≠ f.key := by
        intro other hOther
        exact hKeys.2.2 _ (List.mem_map_of_mem hOther) _
          (List.mem_map_of_mem List.mem_cons_self)
      have hUnseen : f.key ∉ seen := by
        rw [hSeen, List.mem_map]
        rintro ⟨other, hOther, hSame⟩
        exact hNew other hOther hSame
      rw [List.map_cons]
      simp only [readMembersInto,
        field?_eq_some hFields hNew]
      simp only [List.contains_iff_mem, hUnseen, hRead]
      have hNext : r.fields = (before ++ [f]) ++ fields := by
        rw [hFields, List.append_assoc, List.singleton_append]
      refine ih hNext ?_
      intro key
      simp [hSeen, or_comm]

/- A record is read from an object of all its fields. -/
theorem read_ofMembers
    {r : Record α}
    {members : List (String × Value)}
    {y : α}
    (hKeys : (r.fields.map Field.key).Nodup)
    (hReads : Reads r.fields members r.blank y) :
    r.read (.ofMembers members) = .ok y :=
  readMembersInto_reads hKeys hReads
    (List.nil_append r.fields).symm (by simp)

/- So is the record of a document that holds the object. -/
theorem readDocument_spell
    {r : Record α}
    {v : Value}
    {y : α}
    (hDocument : Document.ofText v.spell = ⟨v, false⟩)
    (hRead : r.read v = .ok y) :
    r.readDocument v.spell = .ok y := by
  unfold readDocument
  rw [hDocument]
  simp only [hRead]
  rfl

end Record

end ClientGen.Json
