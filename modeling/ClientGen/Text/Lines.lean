/-
  Texts as lines, and as pieces between separators.

  Key definitions include:
    * `lines`
    * `unlines`
    * `pieces`
    * `joinWith`

  A line ends at a line feed, which takes one carriage
  return before it along.  A text that ends in a line feed
  has no further, empty line.
-/

namespace ClientGen.Text

------------------------------------------------------------
-- Lines
------------------------------------------------------------

/- The lines of a text, without their ends. -/
def lines : List Char → List (List Char)
  | [] => []
  | '\n' :: rest => [] :: lines rest
  | '\r' :: '\n' :: rest => [] :: lines rest
  | c :: rest =>
      match lines rest with
      | [] => [[c]]
      | line :: more => (c :: line) :: more

/- The text that holds the lines, each ended by a line feed. -/
def unlines
    (ls : List (List Char)) :
    List Char :=
  ls.flatMap (· ++ ['\n'])

------------------------------------------------------------
-- Pieces
------------------------------------------------------------

/-
  The pieces between the separators of a text: one more
  than there are separators.
-/
def pieces
    (separator : Char) :
    List Char → List (List Char)
  | [] => [[]]
  | c :: rest =>
      if c = separator then
        [] :: pieces separator rest
      else
        match pieces separator rest with
        | [] => [[c]]
        | piece :: more => (c :: piece) :: more

/- Texts one after the other with a separator between. -/
def joinWith
    (separator : String) :
    List String → String
  | [] => ""
  | [s] => s
  | s :: t :: more =>
      s ++ separator ++ joinWith separator (t :: more)

end ClientGen.Text
