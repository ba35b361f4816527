import ClientGen.Json.Numeral
import ClientGen.Json.Text

/-
  The tokens of JSON text.

  Key definitions include:
    * `Token`
    * `lexToken`
    * `tokens`
    * `Token.spell`

  Reading tokens does not fail: where no token can be read
  the sequence ends in `bad`.  A string with half a surrogate
  pair is a token without a text, since it does no harm where
  its text is not wanted.
-/

namespace ClientGen.Json

------------------------------------------------------------
-- Tokens
------------------------------------------------------------

/- A token of JSON text. -/
inductive Token where
  | beginArray
  | endArray
  | beginObject
  | endObject
  | colon
  | comma
  | null
  | bool (b : Bool)
  | number (n : Numeral)
  | string (s : Option String)
  | bad
  deriving DecidableEq, Repr

/- The white space between tokens. -/
def isSpace
    (c : Char) :
    Bool :=
  c == ' ' || c == '\n' || c == '\t' || c == '\r'

------------------------------------------------------------
-- Reading
------------------------------------------------------------

/- What follows a word at the front of a text. -/
def afterWord : List Char → List Char → Option (List Char)
  | [], rest => some rest
  | _ :: _, [] => none
  | w :: word, c :: rest =>
      if w = c then afterWord word rest else none

/- A token that is there, or the bad one. -/
def orBad : Option (Token × List Char) → Token × List Char
  | some read => read
  | none => (.bad, [])

/- A token written as a word that has lost its first letter. -/
def lexWord
    (token : Token)
    (word : String)
    (rest : List Char) :
    Token × List Char :=
  orBad ((afterWord word.toList rest).map fun more =>
    (token, more))

/- The string whose opening quote has been read. -/
def lexString
    (rest : List Char) :
    Token × List Char :=
  orBad ((lexUnits rest).map fun (units, more) =>
    (.string ((decodeUnits units).map String.ofList), more))

/- The number at the front of a text. -/
def lexNumber
    (cs : List Char) :
    Token × List Char :=
  orBad ((Numeral.lex cs).map fun (n, more) =>
    (.number n, more))

/- The token that begins with the given character. -/
def lexToken
    (c : Char)
    (rest : List Char) :
    Token × List Char :=
  match c with
  | '[' => (.beginArray, rest)
  | ']' => (.endArray, rest)
  | '\x7b' => (.beginObject, rest)
  | '\x7d' => (.endObject, rest)
  | ':' => (.colon, rest)
  | ',' => (.comma, rest)
  | 'n' => lexWord .null "ull" rest
  | 't' => lexWord (.bool true) "rue" rest
  | 'f' => lexWord (.bool false) "alse" rest
  | '"' => lexString rest
  | c => lexNumber (c :: rest)

------------------------------------------------------------
-- Progress
------------------------------------------------------------

/- What follows a word is no longer than what held it. -/
theorem afterWord_length
    {word cs rest : List Char}
    (h : afterWord word cs = some rest) :
    rest.length ≤ cs.length := by
  induction word generalizing cs with
  | nil => simp_all [afterWord]
  | cons w word ih =>
      cases cs with
      | nil => simp [afterWord] at h
      | cons c cs =>
          simp only [afterWord] at h
          split at h
          · exact Nat.le_succ_of_le (ih h)
          · simp at h

/- A string that has been read is followed by less text. -/
theorem lexUnits_length
    {cs rest : List Char}
    {units : List StringUnit}
    (h : lexUnits cs = some (units, rest)) :
    rest.length ≤ cs.length := by
  fun_induction lexUnits cs generalizing units with
  | case1 => simp at h
  | case2 => simp_all
  | case3 a b c d rest' n hn ih =>
      obtain ⟨⟨us, r⟩, hr, he⟩ := Option.map_eq_some_iff.1 h
      obtain ⟨rfl, rfl⟩ := by simpa [withUnit] using he
      have := ih hr
      simp only [List.length_cons]
      omega
  | case4 => simp at h
  | case5 e rest' c hc hne ih =>
      obtain ⟨⟨us, r⟩, hr, he⟩ := Option.map_eq_some_iff.1 h
      obtain ⟨rfl, rfl⟩ := by simpa [withUnit] using he
      have := ih hr
      simp only [List.length_cons]
      omega
  | case6 => simp at h
  | case7 => simp at h
  | case8 c rest' h1 h2 h3 h4 ih =>
      obtain ⟨⟨us, r⟩, hr, he⟩ := Option.map_eq_some_iff.1 h
      obtain ⟨rfl, rfl⟩ := by simpa [withUnit] using he
      have := ih hr
      simp only [List.length_cons]
      omega

/- A token takes at least the character it begins with. -/
theorem lexToken_length
    (c : Char)
    (rest : List Char) :
    (lexToken c rest).2.length ≤ rest.length := by
  have word (t : Token) (w : String) :
      (lexWord t w rest).2.length ≤ rest.length := by
    unfold lexWord orBad
    split
    · next h =>
        obtain ⟨r, hr, rfl⟩ := Option.map_eq_some_iff.1 h
        exact afterWord_length hr
    · simp
  have string : (lexString rest).2.length ≤ rest.length := by
    unfold lexString orBad
    split
    · next h =>
        obtain ⟨⟨us, r⟩, hr, rfl⟩ := Option.map_eq_some_iff.1 h
        exact lexUnits_length hr
    · simp
  have number :
      (lexNumber (c :: rest)).2.length ≤ rest.length := by
    unfold lexNumber orBad
    split
    · next h =>
        obtain ⟨⟨n, r⟩, hr, rfl⟩ := Option.map_eq_some_iff.1 h
        exact Nat.le_of_lt_succ (Numeral.lex_length hr)
    · simp
  unfold lexToken
  split <;> first
    | exact Nat.le_refl _
    | exact word _ _
    | exact string
    | exact number

/- The text from its first character that is not space. -/
def skipSpace
    (cs : List Char) :
    List Char :=
  cs.dropWhile isSpace

/- Skipping space does not add to a text. -/
theorem skipSpace_length
    (cs : List Char) :
    (skipSpace cs).length ≤ cs.length :=
  (List.dropWhile_sublist isSpace).length_le

/-
  The tokens of a text, up to the place where none can be
  read.
-/
def tokens
    (cs : List Char) :
    List Token :=
  match _h : skipSpace cs with
  | [] => []
  | c :: rest =>
      (lexToken c rest).1 :: tokens (lexToken c rest).2
termination_by cs.length
decreasing_by
  have := skipSpace_length cs
  have := lexToken_length c rest
  simp_all only [List.length_cons]
  omega

------------------------------------------------------------
-- Writing
------------------------------------------------------------

/- A numeral as it is written. -/
def Numeral.spell
    (n : Numeral) :
    List Char :=
  (if n.negative then ['-'] else []) ++ n.whole ++
    n.fraction.elim [] (fun digits => '.' :: digits) ++
    n.exponent.elim [] fun e =>
      'e' :: ((if e.negative then ['-'] else []) ++ e.digits)

/- A token as it is written. -/
def Token.spell : Token → List Char
  | .beginArray => ['[']
  | .endArray => [']']
  | .beginObject => ['\x7b']
  | .endObject => ['\x7d']
  | .colon => [':']
  | .comma => [',']
  | .null => "null".toList
  | .bool true => "true".toList
  | .bool false => "false".toList
  | .number n => n.spell
  | .string s => s.elim [] fun text => encode text.toList
  | .bad => []

end ClientGen.Json
