import ClientGen.Text.Hexadecimal

/-
  String literals of JSON.

  Key definitions include:
    * `StringUnit`
    * `lexUnits`
    * `decodeUnits`
    * `encodeChar`
    * `encode`

  A literal is first read as units, which only asks for
  well-formed escapes.  The units are a text if each half of
  a surrogate pair stands beside the other half.
-/

namespace ClientGen.Json

------------------------------------------------------------
-- Units
------------------------------------------------------------

/-
  A character of a literal, or a number of 16 bits from an
  escape.
-/
inductive StringUnit where
  | char (c : Char)
  | code (n : Nat)
  deriving DecidableEq, Repr

/- The value of four hexadecimal digits. -/
def hexCode
    (a b c d : Char) :
    Option Nat := do
  let a ← Text.hexDigit? a
  let b ← Text.hexDigit? b
  let c ← Text.hexDigit? c
  let d ← Text.hexDigit? d
  some (((a * 16 + b) * 16 + c) * 16 + d)

/- The character a one-letter escape stands for. -/
def escapedChar : Char → Option Char
  | '"' => some '"'
  | '\\' => some '\\'
  | '/' => some '/'
  | 'b' => some '\x08'
  | 'f' => some '\x0c'
  | 'n' => some '\n'
  | 'r' => some '\r'
  | 't' => some '\t'
  | _ => none

/- What has been read of a literal with one more unit. -/
def withUnit
    (u : StringUnit)
    (read : List StringUnit × List Char) :
    List StringUnit × List Char :=
  (u :: read.1, read.2)

/-
  The units of a literal whose opening quote has been read,
  and what comes after its closing quote.
-/
def lexUnits : List Char →
    Option (List StringUnit × List Char)
  | [] => none
  | '"' :: rest => some ([], rest)
  | '\\' :: 'u' :: a :: b :: c :: d :: rest =>
      match hexCode a b c d with
      | some n => (lexUnits rest).map (withUnit (.code n))
      | none => none
  | '\\' :: e :: rest =>
      match escapedChar e with
      | some c => (lexUnits rest).map (withUnit (.char c))
      | none => none
  | c :: rest =>
      if c < ' ' ∨ c = '\\' then none
      else (lexUnits rest).map (withUnit (.char c))

------------------------------------------------------------
-- Decoding
------------------------------------------------------------

/- The first half of a surrogate pair. -/
def isHighSurrogate
    (n : Nat) :
    Bool :=
  decide (0xD800 ≤ n) && decide (n ≤ 0xDBFF)

/- The second half of a surrogate pair. -/
def isLowSurrogate
    (n : Nat) :
    Bool :=
  decide (0xDC00 ≤ n) && decide (n ≤ 0xDFFF)

/- The character of a surrogate pair. -/
def pairedChar
    (high low : Nat) :
    Char :=
  Char.ofNat
    (0x10000 + (high - 0xD800) * 0x400 + (low - 0xDC00))

/- The text of units, unless a surrogate stands alone. -/
def decodeUnits : List StringUnit → Option (List Char)
  | [] => some []
  | .char c :: rest => (decodeUnits rest).map (c :: ·)
  | .code high :: .code low :: rest =>
      if isHighSurrogate high then
        if isLowSurrogate low then
          (decodeUnits rest).map (pairedChar high low :: ·)
        else none
      else if isLowSurrogate high then none
      else
        (decodeUnits (.code low :: rest)).map
          (Char.ofNat high :: ·)
  | .code n :: rest =>
      if isHighSurrogate n || isLowSurrogate n then none
      else (decodeUnits rest).map (Char.ofNat n :: ·)

------------------------------------------------------------
-- Encoding
------------------------------------------------------------

/- A hexadecimal digit in lower case. -/
def hexDigit
    (n : Nat) :
    Char :=
  if n < 10 then Char.ofNat (48 + n) else Char.ofNat (87 + n)

/-
  A character inside a literal.  Only quotes, backslashes
  and controls are escaped.
-/
def encodeChar
    (c : Char) :
    List Char :=
  if c = '"' ∨ c = '\\' then ['\\', c]
  else if c = '\x08' then ['\\', 'b']
  else if c = '\t' then ['\\', 't']
  else if c = '\n' then ['\\', 'n']
  else if c = '\x0c' then ['\\', 'f']
  else if c = '\r' then ['\\', 'r']
  else if c < ' ' then
    ['\\', 'u', '0', '0', hexDigit (c.toNat / 16),
      hexDigit (c.toNat % 16)]
  else [c]

/- The literal that stands for a text. -/
def encode
    (cs : List Char) :
    List Char :=
  '"' :: (cs.flatMap encodeChar ++ ['"'])

end ClientGen.Json
