import ClientGen.Text.Lines

/-
  Paths of files, kept as the text they are given in.

  Key definitions include:
    * `Path.isAbsolute`
    * `Path.names`
    * `Path.isShort`
    * `Path.join`
    * `Path.parent?`
    * `Path.ancestors`

  A path is shown as it was given, dots and double slashes
  included, so none of the operations tidies it up.
-/

namespace ClientGen.Files.Path

open ClientGen.Text

/- Whether a path starts at the root. -/
def isAbsolute
    (path : String) :
    Bool :=
  path.toList.head? == some '/'

/- The names between slashes; some may be empty. -/
def names
    (path : String) :
    List String :=
  (pieces '/' path.toList).map String.ofList

/- Whether a name is short enough for a directory. -/
def fitsDirectory
    (name : String) :
    Bool :=
  name.utf8ByteSize ≤ 255

/- Whether a path is short enough to be looked up. -/
def isShort
    (path : String) :
    Bool :=
  path.utf8ByteSize < 4096

/- Whether a path ends where a file system sees its end. -/
def isWhole
    (path : String) :
    Bool :=
  !path.toList.contains '\x00'

/- The path below a path; an absolute one stands alone. -/
def join
    (base below : String) :
    String :=
  if isAbsolute below || base = "" then below
  else if base.toList.getLast? = some '/' then base ++ below
  else base ++ "/" ++ below

/- Whether a name after a slash leads nowhere. -/
def isIdle
    (name : String) :
    Bool :=
  name = "" || name = "."

/- Names from the last to the first, idle ones dropped. -/
def dropIdle : List String → List String
  | [] => []
  | [first] => [first]
  | last :: before =>
      if isIdle last then dropIdle before else last :: before

/- The path of names from the last to the first. -/
def ofBackwards : List String → String
  | [""] => "/"
  | backwards => joinWith "/" backwards.reverse

/-
  What a path lies in: the empty path for a single name, and
  nothing for the root and the empty path.
-/
def parent?
    (path : String) :
    Option String :=
  match dropIdle (names path).reverse with
  | [] => none
  | [""] => none
  | [_] => some ""
  | _ :: before => some (ofBackwards (dropIdle before))

/-
  Up to so many of the paths that a path lies in, itself
  first, down to the one without a parent.
-/
def ancestorsUpTo : Nat → String → List String
  | 0, path => [path]
  | bound + 1, path =>
      path ::
        (match parent? path with
        | none => []
        | some parent => ancestorsUpTo bound parent)

/- The paths that a path lies in, itself first. -/
def ancestors
    (path : String) :
    List String :=
  ancestorsUpTo (names path).length path

end ClientGen.Files.Path
