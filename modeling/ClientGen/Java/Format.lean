import ClientGen.Java.Code
import ClientGen.Java.Literal

/-
  The format language of code fragments.

  Key definitions include:
    * `Argument`
    * `CodeError`
    * `CodeError.message`
    * `Format.Item`
    * `Format.items`
    * `Format.Item.fit`
    * `Format.read`
    * `Code.ofFormat`

  A format is plain text with marks.  `$T` takes a type,
  `$N` a name, `$S` a text to be quoted and `$L` anything,
  each the next of the arguments.  `$>` and `$<` change the
  indentation and `$$` is a dollar sign.
-/

namespace ClientGen.Java

------------------------------------------------------------
-- Arguments
------------------------------------------------------------

/- What a mark of a format can take. -/
inductive Argument where
  | text (s : String)
  | type (t : TypeName)
  | code (c : Code)
  deriving DecidableEq, Repr

instance : Coe String Argument :=
  ⟨Argument.text⟩

instance : Coe TypeName Argument :=
  ⟨Argument.type⟩

instance : Coe ClassName Argument :=
  ⟨fun c => Argument.type (TypeName.class c)⟩

instance : Coe Code Argument :=
  ⟨Argument.code⟩

------------------------------------------------------------
-- Errors
------------------------------------------------------------

/- Why code could not be put together. -/
inductive CodeError where
  | unknownMark (mark : Char) (format : String)
  | argumentCount
      (format : String)
      (expected actual : Nat)
  | argumentKind
      (mark : Char)
      (index : Nat)
      (format : String)
  | siblingOutsideBlock (format : String)
  | endOutsideBlock
  | blocksLeftOpen (count : Nat)
  deriving DecidableEq, Repr

/- The wording of an error. -/
def CodeError.message : CodeError → String
  | .unknownMark mark format =>
      "Unknown placeholder '$" ++ String.singleton mark ++
        "' in format \"" ++ format ++ "\""
  | .argumentCount format expected actual =>
      "Format \"" ++ format ++ "\" expects " ++
        toString expected ++ " argument(s), got " ++
        toString actual
  | .argumentKind mark index format =>
      "Argument " ++ toString index ++
        " cannot be used for '$" ++ String.singleton mark ++
        "' in format \"" ++ format ++ "\""
  | .siblingOutsideBlock format =>
      "Unbalanced control flow: '" ++ format ++
        "' without an open block"
  | .endOutsideBlock =>
      "Unbalanced control flow: end of block without an " ++
        "open block"
  | .blocksLeftOpen count =>
      "Unbalanced control flow: " ++ toString count ++
        " block(s) left open"

namespace Format

------------------------------------------------------------
-- Items
------------------------------------------------------------

/-
  A plain character, or a dollar sign with the character
  after it.  A dollar sign that ends the format counts as
  marked by a blank.
-/
inductive Item where
  | plain (c : Char)
  | mark (c : Char)
  deriving DecidableEq, Repr

/- The items of a format, from left to right. -/
def items : List Char → List Item
  | [] => []
  | ['$'] => [.mark ' ']
  | '$' :: c :: rest => .mark c :: items rest
  | c :: rest => .plain c :: items rest

/- Whether an item takes an argument. -/
def Item.consumes : Item → Bool
  | .plain _ => false
  | .mark c => c == 'T' || c == 'N' || c == 'S' || c == 'L'

/- How many arguments a format takes. -/
def demand
    (format : String) :
    Nat :=
  (items format.toList).countP Item.consumes

------------------------------------------------------------
-- Meanings
------------------------------------------------------------

/-
  What an item stands for: text on the current line, or
  parts set down on their own.
-/
inductive Meaning where
  | inline (s : String)
  | placed (parts : List Code.Part)
  deriving DecidableEq, Repr

/- The parts of a meaning. -/
def Meaning.parts : Meaning → List Code.Part
  | .inline s => [.text s]
  | .placed parts => parts

/- Whether a meaning is text on the current line. -/
def Meaning.isInline : Meaning → Bool
  | .inline _ => true
  | .placed _ => false

/- What a mark makes of an argument that fits it. -/
def fit : Char → Argument → Option Meaning
  | 'T', .type t => some (.placed [.type t])
  | 'N', .text name => some (.inline name)
  | 'S', .text value => some (.inline (stringLiteral value))
  | 'L', .text s => some (.inline s)
  | 'L', .type t => some (.placed [.type t])
  | 'L', .code code => some (.placed code.parts)
  | _, _ => none

/- What a mark means that takes no argument. -/
def standing : Char → Option Meaning
  | '$' => some (.inline "$")
  | '>' => some (.placed [.indent])
  | '<' => some (.placed [.unindent])
  | _ => none

------------------------------------------------------------
-- Reading
------------------------------------------------------------

/- How a format and its arguments disagree. -/
inductive Mismatch where
  | unknown (mark : Char)
  | count
  | kind (mark : Char) (index : Nat)
  deriving DecidableEq, Repr

/-
  The meanings of the items before the first mismatch, and
  that mismatch if there is one.
-/
structure Reading where
  meanings : List Meaning
  mismatch : Option Mismatch
  deriving DecidableEq, Repr

/- A reading with one more meaning in front. -/
def Reading.after
    (r : Reading)
    (m : Meaning) :
    Reading :=
  { r with meanings := m :: r.meanings }

/-
  Read items against the arguments that are left, the first
  of which has the given index.
-/
def readItems : List Item → Nat → List Argument → Reading
  | [], _, [] => ⟨[], none⟩
  | [], _, _ :: _ => ⟨[], some .count⟩
  | .plain c :: rest, index, arguments =>
      (readItems rest index arguments).after
        (.inline (String.singleton c))
  | .mark c :: rest, index, arguments =>
      if (Item.mark c).consumes then
        match arguments with
        | [] => ⟨[], some .count⟩
        | argument :: more =>
            match fit c argument with
            | some m => (readItems rest (index + 1) more).after m
            | none => ⟨[], some (.kind c index)⟩
      else
        match standing c with
        | some m => (readItems rest index arguments).after m
        | none => ⟨[], some (.unknown c)⟩

/- Read a whole format against its arguments. -/
def read
    (format : String)
    (arguments : List Argument) :
    Reading :=
  readItems (items format.toList) 0 arguments

/- The error that reports a mismatch. -/
def Mismatch.error
    (format : String)
    (arguments : List Argument) :
    Mismatch → CodeError
  | .unknown c => .unknownMark c format
  | .count =>
      .argumentCount format (demand format) arguments.length
  | .kind c index => .argumentKind c index format

/- All the parts of a reading. -/
def Reading.parts
    (r : Reading) :
    List Code.Part :=
  r.meanings.flatMap Meaning.parts

/-
  The parts that stand even if the reading is broken off:
  text waits for what comes after it on the line and is lost
  with it.
-/
def Reading.settled
    (r : Reading) :
    List Code.Part :=
  ((r.meanings.reverse.dropWhile Meaning.isInline).reverse
    ).flatMap Meaning.parts

end Format

/- The fragment that a format and its arguments describe. -/
def Code.ofFormat
    (format : String)
    (arguments : List Argument) :
    Except CodeError Code :=
  let r := Format.read format arguments
  match r.mismatch with
  | none => .ok (Code.ofParts r.parts)
  | some m => .error (m.error format arguments)

end ClientGen.Java
