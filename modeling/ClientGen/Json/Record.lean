import ClientGen.Json.Value
import ClientGen.Text.Lines
import ClientGen.Text.Quoted

/-
  Reading typed data from JSON values.

  Key definitions include:
    * `ReadError`
    * `ReadError.message`
    * `readText`
    * `readOptional`
    * `readFlag`
    * `readVariant`
    * `readEntries`
    * `Field`
    * `Record`
    * `Record.read`
    * `Record.readDocument`

  Data is read in the order of the text, and the first
  problem in that order is the one that is told.  A record
  is written as an object with its fields in any order, or
  as the list of them.
-/

namespace ClientGen.Json

open ClientGen.Text

------------------------------------------------------------
-- Errors
------------------------------------------------------------

/- Why data could not be read. -/
inductive ReadError where
  | malformed
  | wrongType (found expected : String)
  | missingField (name : String)
  | duplicateField (name : String)
  | tooFewItems (count : Nat) (expected : String)
  | unknownVariant (name : String) (options : List String)
  | rejected (why : String)
  deriving DecidableEq, Repr

/- A word between the marks of code. -/
def marked
    (s : String) :
    String :=
  "\x60" ++ s ++ "\x60"

/- A choice of words. -/
def choice : List String → String
  | [a, b] => marked a ++ " or " ++ marked b
  | options =>
      "one of " ++ joinWith ", " (options.map marked)

/- Whether a text is a number that fits 64 bits. -/
def isPositionNumber
    (digits : List Char) :
    Bool :=
  !digits.isEmpty && digits.all isDigit &&
    decide (digits.foldl
      (fun n c => n * 10 + digitValue c) 0 < Nat.pow 2 64)

/-
  The numbers of a text of the form `7 column 9`, which is
  all there is after the last ` at line ` of a position.
-/
def isPosition
    (cs : List Char) :
    Bool :=
  let line := cs.takeWhile isDigit
  match afterWord " column ".toList (cs.dropWhile isDigit) with
  | none => false
  | some column =>
      isPositionNumber line && isPositionNumber column

/-
  What comes before the last ` at line `, if that begins a
  position at the end of the text.
-/
def beforePosition? : List Char → Option (List Char)
  | [] => none
  | c :: rest =>
      match beforePosition? rest with
      | some kept => some (c :: kept)
      | none =>
          match afterWord " at line ".toList (c :: rest) with
          | some position =>
              if isPosition position then some [] else none
          | none => none

/- A text without the position that it may end in. -/
def withoutPosition
    (s : String) :
    String :=
  match beforePosition? s.toList with
  | some kept => String.ofList kept
  | none => s

/- The wording of an error; malformed text has none. -/
def ReadError.message : ReadError → Option String
  | .malformed => none
  | .wrongType found expected =>
      some ("invalid type: " ++ found ++ ", expected " ++
        expected)
  | .missingField name =>
      some ("missing field " ++ marked name)
  | .duplicateField name =>
      some ("duplicate field " ++ marked name)
  | .tooFewItems count expected =>
      some ("invalid length " ++ toString count ++
        ", expected " ++ expected)
  | .unknownVariant name options =>
      some ("unknown variant " ++ marked name ++
        ", expected " ++ choice options)
  | .rejected why => some (withoutPosition why)

------------------------------------------------------------
-- Descriptions
------------------------------------------------------------

/- A number by kind and value, if it has one. -/
def Numeral.description
    (n : Numeral) :
    Option String :=
  n.value.map fun
    | .integer k => "integer " ++ marked (toString k)
    | .float x => "floating point " ++ marked (floatText x)

/- A truth value by kind and value. -/
def describeBool
    (b : Bool) :
    String :=
  "boolean " ++ marked (if b then "true" else "false")

/-
  A value by its kind, unless the text is already wrong where
  the value begins.
-/
def Value.description : Value → Option String
  | .null => some "null"
  | .bool b => some (describeBool b)
  | .number n => n.description
  | .string s => s.map fun text => "string " ++ quoted text
  | .array _ _ => some "sequence"
  | .object _ _ => some "map"
  | .broken => none

/- The error for what should have been something else. -/
def mismatch
    (description : Option String)
    (expected : String) :
    ReadError :=
  match description with
  | none => .malformed
  | some found => .wrongType found expected

------------------------------------------------------------
-- Simple Data
------------------------------------------------------------

/- Read a text. -/
def readText : Value → Except ReadError String
  | .string (some s) => .ok s
  | v => .error (mismatch v.description "a string")

/- Read a truth value. -/
def readFlag : Value → Except ReadError Bool
  | .bool b => .ok b
  | v => .error (mismatch v.description "a boolean")

/- Read something for which `null` stands if it is absent. -/
def readOptional
    {α : Type}
    (read : Value → Except ReadError α) :
    Value → Except ReadError (Option α)
  | .null => .ok none
  | v => (read v).map some

/- Read a text that a reader of its own has to accept. -/
def readParsed
    {α : Type}
    (parse : String → Except String α)
    (v : Value) :
    Except ReadError α := do
  let s ← readText v
  match parse s with
  | .ok a => .ok a
  | .error why => .error (.rejected why)

/- Find a variant by its name. -/
def findVariant
    {α : Type}
    (options : List (String × α))
    (name : String) :
    Except ReadError α :=
  match options.lookup name with
  | some a => .ok a
  | none =>
      .error (.unknownVariant name (options.map Prod.fst))

/-
  Read one of several variants: its name, or an object in
  which its name has the value `null`.
-/
def readVariant
    {α : Type}
    (options : List (String × α)) :
    Value → Except ReadError α
  | .string (some name) => findVariant options name
  | .object ((some name, v) :: more) ending => do
      let a ← findVariant options name
      match v with
      | .null =>
          if more.isEmpty && ending == .closed then .ok a
          else .error .malformed
      | v => .error (mismatch v.description "unit")
  | _ => .error .malformed

------------------------------------------------------------
-- Entries
------------------------------------------------------------

/- Read the members of an object as entries of one type. -/
def readMembers
    {α : Type}
    (read : Value → Except ReadError α)
    (ending : Ending) :
    List Member → Except ReadError (List (String × α))
  | [] =>
      if ending == .closed then .ok [] else .error .malformed
  | (none, _) :: _ => .error .malformed
  | (some key, v) :: rest => do
      let a ← read v
      let more ← readMembers read ending rest
      .ok ((key, a) :: more)

/- Read an object whose members are entries of one type. -/
def readEntries
    {α : Type}
    (read : Value → Except ReadError α) :
    Value → Except ReadError (List (String × α))
  | .object members ending => readMembers read ending members
  | v => .error (mismatch v.description "a map")

------------------------------------------------------------
-- Records
------------------------------------------------------------

/-
  A field of a record: its name, whether it has to be there,
  and how its value changes the record.
-/
structure Field (α : Type) where
  key : String
  isRequired : Bool
  read : Value → Except ReadError (α → α)

/-
  A kind of record: its name, the record in which no field
  has been set, and its fields in the order of the list.
-/
structure Record (α : Type) where
  name : String
  blank : α
  fields : List (Field α)

/- A field from the reading of its value and its setting. -/
def Field.of
    {α β : Type}
    (key : String)
    (isRequired : Bool)
    (read : Value → Except ReadError β)
    (set : β → α → α) :
    Field α :=
  ⟨key, isRequired, fun v => (read v).map set⟩

namespace Record

variable {α : Type}

/- What a record is called where one was expected. -/
def expectation
    (r : Record α) :
    String :=
  "struct " ++ r.name

/- The field of that name. -/
def field?
    (r : Record α)
    (key : String) :
    Option (Field α) :=
  r.fields.find? (·.key == key)

/- The first field that has to be there and has not been. -/
def missing?
    (r : Record α)
    (seen : List String) :
    Option (Field α) :=
  r.fields.find? fun f => f.isRequired && !seen.contains f.key

/-
  Read members into a record some fields of which have been
  seen.  A member without a field only has to be well formed.
-/
def readMembersInto
    (r : Record α)
    (ending : Ending) :
    List Member → List String → α → Except ReadError α
  | [], seen, x =>
      if ending == .closed then
        match r.missing? seen with
        | none => .ok x
        | some f => .error (.missingField f.key)
      else .error .malformed
  | (none, _) :: _, _, _ => .error .malformed
  | (some key, v) :: rest, seen, x =>
      match r.field? key with
      | none =>
          if v.isComplete then
            readMembersInto r ending rest seen x
          else .error .malformed
      | some f =>
          if seen.contains key then .error (.duplicateField key)
          else
            match f.read v with
            | .error e => .error e
            | .ok set =>
                readMembersInto r ending rest (key :: seen)
                  (set x)

/-
  Read items into the fields from a position on.  Where the
  list runs short, only fields that may be absent are left
  as they are.
-/
def readItemsInto
    (r : Record α)
    (ending : Ending) :
    List (Field α) → List Value → Nat → α →
      Except ReadError α
  | [], items, _, x =>
      if items.isEmpty && ending == .closed then .ok x
      else .error .malformed
  | f :: fields, [], index, x =>
      if ending != .closed then .error .malformed
      else if f.isRequired then
        .error (.tooFewItems index (r.expectation ++ " with " ++
          toString r.fields.length ++ " elements"))
      else readItemsInto r ending fields [] (index + 1) x
  | f :: fields, v :: items, index, x =>
      match f.read v with
      | .error e => .error e
      | .ok set =>
          readItemsInto r ending fields items (index + 1)
            (set x)

/- Read a record. -/
def read
    (r : Record α) :
    Value → Except ReadError α
  | .object members ending =>
      r.readMembersInto ending members [] r.blank
  | .array items ending =>
      r.readItemsInto ending r.fields items 0 r.blank
  | v => .error (mismatch v.description r.expectation)

/- Read a text that holds a record and nothing else. -/
def readDocument
    (r : Record α)
    (text : String) :
    Except ReadError α :=
  let document := Document.ofText text
  match r.read document.value with
  | .error e => .error e
  | .ok x =>
      if document.hasMore then .error .malformed else .ok x

end Record

end ClientGen.Json
