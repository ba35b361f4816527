import ClientGen.Json.Token

/-
  JSON values, and their reading from tokens up to the first
  place where the tokens go wrong.

  Key definitions include:
    * `Value`
    * `Value.isComplete`
    * `Value.tokens`
    * `Value.spell`
    * `Reader`
    * `Reader.take`
    * `Document`
    * `Document.ofText`

  Reading does not fail.  Where the tokens go wrong, every
  list and object still open is kept with what it holds so
  far, so that a problem with the content of an earlier part
  can be told before the problem with the text.
-/

namespace ClientGen.Json

------------------------------------------------------------
-- Values
------------------------------------------------------------

/- Whether a list or object was read to its end. -/
inductive Ending where
  | closed
  | stopped
  deriving DecidableEq, Repr

/-
  A value, as far as it could be read.  Names of members and
  strings are missing if they hold half a surrogate pair.
-/
inductive Value where
  | null
  | bool (b : Bool)
  | number (n : Numeral)
  | string (s : Option String)
  | array (items : List Value) (ending : Ending)
  | object
      (members : List (Option String × Value))
      (ending : Ending)
  | broken
  deriving Repr, Inhabited

/- A member of an object. -/
abbrev Member :=
  Option String × Value

namespace Value

/-
  Whether the value was read to its end.  Nothing follows
  the place where reading stopped, so a list or object that
  was closed holds complete values only.
-/
def isComplete : Value → Bool
  | .array _ ending => ending == .closed
  | .object _ ending => ending == .closed
  | .broken => false
  | _ => true

/- A text as a value. -/
def ofString
    (s : String) :
    Value :=
  .string (some s)

/- Members with names as an object. -/
def ofMembers
    (members : List (String × Value)) :
    Value :=
  .object (members.map fun (k, v) => (some k, v)) .closed

end Value

------------------------------------------------------------
-- Writing
------------------------------------------------------------

mutual

/- The tokens of a value. -/
def Value.tokens : Value → List Token
  | .null => [.null]
  | .bool b => [.bool b]
  | .number n => [.number n]
  | .string s => [.string s]
  | .array items _ =>
      .beginArray :: (itemTokens items ++ [.endArray])
  | .object members _ =>
      .beginObject :: (memberTokens members ++ [.endObject])
  | .broken => [.bad]

/- The tokens of the values of a list. -/
def itemTokens : List Value → List Token
  | [] => []
  | [v] => v.tokens
  | v :: next :: more =>
      v.tokens ++ (.comma :: itemTokens (next :: more))

/- The tokens of the members of an object. -/
def memberTokens : List (Option String × Value) → List Token
  | [] => []
  | [(key, v)] => .string key :: .colon :: v.tokens
  | (key, v) :: next :: more =>
      .string key :: .colon ::
        (v.tokens ++ (.comma :: memberTokens (next :: more)))

end

/- A value as text without any space. -/
def Value.spell
    (v : Value) :
    String :=
  String.ofList (v.tokens.flatMap Token.spell)

------------------------------------------------------------
-- Reading
------------------------------------------------------------

/-
  A list or object that is being read, with what it holds so
  far, latest first.  A member whose value is to come keeps
  its name beside the members before it.
-/
inductive Frame where
  | array (items : List Value)
  | object (members : List Member)
  | member (members : List Member) (key : Option String)
  deriving Repr

/- What has to come next. -/
inductive Awaited where
  | value
  | firstItem
  | firstKey
  | key
  | colon
  | separator
  deriving DecidableEq, Repr

/-
  The state of reading: under way within frames, innermost
  first; at the end of a value; past the end of a value; or
  stopped.
-/
inductive Reader where
  | reading (awaited : Awaited) (frames : List Frame)
  | finished (v : Value)
  | trailing (v : Value)
  | stopped (v : Value)
  deriving Repr

/- The value of a frame whose reading stops. -/
def Frame.abandoned
    (inner : Option Value) :
    Frame → Value
  | .array items =>
      .array (items.reverse ++ inner.toList) .stopped
  | .object members =>
      .object members.reverse .stopped
  | .member members key =>
      .object (members.reverse ++ [(key, inner.getD .broken)])
        .stopped

/- The value of frames whose reading stops. -/
def abandon
    (frames : List Frame) :
    Value :=
  (frames.foldl
    (fun inner frame => some (frame.abandoned inner))
    none).getD .broken

namespace Reader

/- Go on after a value has been read. -/
def complete
    (v : Value) :
    List Frame → Reader
  | [] => .finished v
  | .array items :: frames =>
      .reading .separator (.array (v :: items) :: frames)
  | .member members key :: frames =>
      .reading .separator
        (.object ((key, v) :: members) :: frames)
  | .object members :: frames =>
      .reading .separator (.object members :: frames)

/- Stop where no token fits. -/
def stop
    (frames : List Frame) :
    Reader :=
  .stopped (abandon frames)

/- Take the first token of a value. -/
def takeValue
    (t : Token)
    (frames : List Frame) :
    Reader :=
  match t with
  | .null => complete .null frames
  | .bool b => complete (.bool b) frames
  | .number n => complete (.number n) frames
  | .string s => complete (.string s) frames
  | .beginArray => .reading .firstItem (.array [] :: frames)
  | .beginObject => .reading .firstKey (.object [] :: frames)
  | _ => stop frames

/- Take the name of a member. -/
def takeKey
    (t : Token)
    (frames : List Frame) :
    Reader :=
  match t, frames with
  | .string key, .object members :: outer =>
      .reading .colon (.member members key :: outer)
  | _, _ => stop frames

/- Take what comes after a value in a list or object. -/
def takeSeparator
    (t : Token)
    (frames : List Frame) :
    Reader :=
  match t, frames with
  | .comma, .array items :: outer =>
      .reading .value (.array items :: outer)
  | .comma, .object members :: outer =>
      .reading .key (.object members :: outer)
  | .endArray, .array items :: outer =>
      complete (.array items.reverse .closed) outer
  | .endObject, .object members :: outer =>
      complete (.object members.reverse .closed) outer
  | _, _ => stop frames

/- Take one token. -/
def take
    (r : Reader)
    (t : Token) :
    Reader :=
  match r with
  | .reading .value frames => takeValue t frames
  | .reading .firstItem frames =>
      if t = .endArray then takeSeparator t frames
      else takeValue t frames
  | .reading .firstKey frames =>
      if t = .endObject then takeSeparator t frames
      else takeKey t frames
  | .reading .key frames => takeKey t frames
  | .reading .colon frames =>
      if t = .colon then .reading .value frames
      else stop frames
  | .reading .separator frames => takeSeparator t frames
  | .finished v => .trailing v
  | .trailing v => .trailing v
  | .stopped v => .stopped v

end Reader

------------------------------------------------------------
-- Documents
------------------------------------------------------------

/-
  The value of a text, and whether the text goes on after
  it.
-/
structure Document where
  value : Value
  hasMore : Bool
  deriving Repr

/- What has been read when the tokens end. -/
def Reader.document : Reader → Document
  | .reading _ frames => ⟨abandon frames, false⟩
  | .finished v => ⟨v, false⟩
  | .trailing v => ⟨v, true⟩
  | .stopped v => ⟨v, false⟩

/- The document of a text. -/
def Document.ofText
    (text : String) :
    Document :=
  ((tokens text.toList).foldl Reader.take
    (.reading .value [])).document

end ClientGen.Json
