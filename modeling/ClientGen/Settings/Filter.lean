import ClientGen.Matching.Excerpt
import ClientGen.Matching.Support
import ClientGen.Text.Blank
import ClientGen.Text.Bytes
import ClientGen.Text.Letter
import ClientGen.Text.Lines
import ClientGen.Toml.Scalar

/-
  Which events are logged.

  Key definitions include:
    * `LogLevel`
    * `LogLevel.ofText?`
    * `FilterError`
    * `FilterError.messages`
    * `checkField`
    * `Directive`
    * `checkFilter`

  A filter is a list of directives with commas between.  A
  directive is a level, or the name of a part of the program
  with or without a level of its own.  It can be limited to
  a span, and to those where a field has a value.  Where a
  level follows an equals sign there are no blanks around
  the directive.
-/

namespace ClientGen.Settings

open ClientGen.Matching ClientGen.Text
open ClientGen.Toml (unsigned opensExponent)

------------------------------------------------------------
-- Levels
------------------------------------------------------------

/- How important events have to be. -/
inductive LogLevel where
  | off
  | error
  | warn
  | info
  | debug
  | trace
  deriving DecidableEq, Repr

namespace LogLevel

/- The levels by their numbers. -/
def all :
    List LogLevel :=
  [.off, .error, .warn, .info, .debug, .trace]

/- The name of a level. -/
def name : LogLevel → String
  | .off => "off"
  | .error => "error"
  | .warn => "warn"
  | .info => "info"
  | .debug => "debug"
  | .trace => "trace"

/- The number of a level, which may have zeros in front. -/
def number?
    (cs : List Char) :
    Option Nat :=
  let digits :=
    match cs with
    | '+' :: rest => rest
    | cs => cs
  if digits = [] then none
  else if digits.all Char.isDigit then
    some (digits.foldl (fun n c => n * 10 + (c.toNat - 48)) 0)
  else none

/- The level that a number or a name in any case means. -/
def ofText?
    (cs : List Char) :
    Option LogLevel :=
  match number? cs with
  | some n => all[n]?
  | none =>
      all.find? fun level =>
        level.name.toList == cs.map Char.toLower

end LogLevel

------------------------------------------------------------
-- Values
------------------------------------------------------------

/- Whether a text is an exponent, or nothing. -/
def isPlainExponent : List Char → Bool
  | [] => true
  | c :: rest =>
      let digits := unsigned rest
      opensExponent c && !digits.isEmpty &&
        digits.all Char.isDigit

/-
  Whether a text is a number in digits, or a name of one in
  any case.  Digits are on one side of the point at least.
-/
def isPlainNumber
    (cs : List Char) :
    Bool :=
  let bare := unsigned cs
  let mantissa := bare.takeWhile (!opensExponent ·)
  let whole := mantissa.takeWhile (· ≠ '.')
  let fraction := (mantissa.dropWhile (· ≠ '.')).drop 1
  let digits := whole ++ fraction
  ["inf", "infinity", "nan"].contains
      (String.ofList (bare.map Char.toLower)) ||
    (!digits.isEmpty && digits.all Char.isDigit &&
      isPlainExponent (bare.dropWhile (!opensExponent ·)))

------------------------------------------------------------
-- Errors
------------------------------------------------------------

/-
  Why a filter is refused.  A pattern can be at fault, and a
  directive can be cut in the middle of a character.
-/
inductive FilterError where
  | level
  | field (pattern : List Char) (e : PatternError)
  | directive
  | brokenCharacter
  deriving DecidableEq, Repr

/- The wording of an error, and after it its causes. -/
def FilterError.messages : FilterError → List String
  | .level =>
      let message :=
        "error parsing level filter: expected one of " ++
          "\"off\", \"error\", \"warn\", \"info\", " ++
          "\"debug\", \"trace\", or a number 0-5"
      [message, message]
  | .field pattern e =>
      let causes := e.messages pattern
      ("invalid field filter: " ++ causes.headD "") :: causes
  | .directive => ["invalid filter directive"]
  | .brokenCharacter =>
      ["a directive is cut within a character"]

/- The wording of an error without its causes. -/
def FilterError.message
    (e : FilterError) :
    String :=
  e.messages.headD ""

------------------------------------------------------------
-- Fields
------------------------------------------------------------

/- A text that tells which values of a field count. -/
def checkValue
    (cs : List Char) :
    Except FilterError Unit :=
  if isPlainNumber cs then .ok ()
  else (checkPattern cs).mapError (.field cs)

/-
  The name of a field, which may have a value after an
  equals sign.  What comes after a second equals sign is not
  looked at.
-/
def checkField
    (cs : List Char) :
    Except FilterError Unit :=
  match pieces '=' cs with
  | _ :: value :: _ => checkValue value
  | _ => .ok ()

------------------------------------------------------------
-- Directives
------------------------------------------------------------

/-
  A directive as written, and without blanks around it.  It
  is read without the blanks, but the texts in it are taken
  from what is written, at the places where they would be if
  there were none in front.
-/
structure Directive where
  written : List Char
  bare : List Char
  deriving DecidableEq, Repr

namespace Directive

/- The number of bytes in front of a place. -/
def offset
    (d : Directive)
    (place : List Char) :
    Nat :=
  byteCount d.bare - byteCount place

/- All that is written from a place on. -/
def textFrom
    (d : Directive)
    (start : List Char) :
    Except FilterError (List Char) :=
  match dropBytes? (d.offset start) d.written with
  | some text => .ok text
  | none => .error .brokenCharacter

/- What is written between two places. -/
def textBetween
    (d : Directive)
    (start stop : List Char) :
    Except FilterError (List Char) := do
  let text ← d.textFrom start
  match takeBytes? (d.offset stop - d.offset start) text with
  | some text => .ok text
  | none => .error .brokenCharacter

/-
  What follows a name: nothing, or a level, which may be
  left out.  Blanks around the directive spoil its level.
-/
def checkLevel
    (d : Directive) :
    List Char → Except FilterError Unit
  | [] => .ok ()
  | '=' :: place => do
      let level ← d.textFrom place
      if level = [] then .ok ()
      else if (LogLevel.ofText? level).isSome then .ok ()
      else .error .level
  | _ => .error .directive

/- The field of a span, and what follows it. -/
def checkFields
    (d : Directive)
    (place : List Char) :
    Except FilterError Unit := do
  match place.dropWhile (· ≠ '\x7d') with
  | [] => .error .directive
  | brace :: after =>
      let field ← d.textBetween place (brace :: after)
      if field = [] then .error .directive
      else checkField field
      match after with
      | ']' :: level => d.checkLevel level
      | _ => .error .directive

/- A span after its opening bracket, and what follows it. -/
def checkSpan
    (d : Directive)
    (place : List Char) :
    Except FilterError Unit := do
  let stops := fun c => c = ']' || c = '\x7b'
  match place.dropWhile (!stops ·) with
  | [] => .error .directive
  | c :: rest =>
      let _ ← d.textBetween place (c :: rest)
      if c = ']' then d.checkLevel rest
      else d.checkFields rest

/- Whether a name may start with a character. -/
def startsName
    (c : Char) :
    Bool :=
  isAlphanumeric c || c = '-' || c = ':' || c = '_'

/- A name, and what follows it. -/
def checkName
    (d : Directive)
    (name : List Char) :
    Except FilterError Unit := do
  let stops := fun c => c = '=' || c = '['
  match name.dropWhile (!stops ·) with
  | [] => .ok ()
  | c :: rest =>
      let _ ← d.textBetween name (c :: rest)
      if c = '[' then d.checkSpan rest
      else d.checkLevel (c :: rest)

/- One directive. -/
def check
    (d : Directive) :
    Except FilterError Unit :=
  match d.bare with
  | [] => .error .directive
  | '[' :: rest => d.checkSpan rest
  | c :: rest =>
      if startsName c then d.checkName (c :: rest)
      else .error .directive

/- The directive that a text writes. -/
def ofText
    (cs : List Char) :
    Directive where
  written := cs
  bare := trim cs

end Directive

/-
  A filter; directives without any text do not count.  It is
  cut at all commas, so that a span has one field at most.
-/
def checkFilter
    (filter : String) :
    Except FilterError Unit :=
  ((pieces ',' filter.toList).filter (!·.isEmpty)).forM
    fun cs => (Directive.ofText cs).check

end ClientGen.Settings
