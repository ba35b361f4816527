import ClientGen.Client.Generate
import ClientGen.Files.System
import ClientGen.Text.Blank

/-
  Writing what has been generated.

  Key definitions include:
    * `cleanLines`
    * `cleaned`
    * `writeAll`

  Files hold cleaned texts: no line ends in blanks, and the
  last line is not empty.
-/

namespace ClientGen.Files

open ClientGen.Client ClientGen.Text

------------------------------------------------------------
-- Cleaning
------------------------------------------------------------

/- Lines up to the last that is not empty. -/
def dropEmptyEnd
    (ls : List (List Char)) :
    List (List Char) :=
  (ls.reverse.dropWhile List.isEmpty).reverse

/- The lines of a text as they are written. -/
def cleanLines
    (cs : List Char) :
    List (List Char) :=
  dropEmptyEnd ((lines cs).map trimEnd)

/- A text as it is written. -/
def cleaned
    (source : String) :
    String :=
  String.ofList (unlines (cleanLines source.toList))

------------------------------------------------------------
-- Writing
------------------------------------------------------------

variable {m : Type → Type} [Monad m] [FileSystem m]

/- Write one file below a directory. -/
def writeFile
    (output : String)
    (file : GeneratedFile) :
    FileAction m String := do
  let path := Path.join output file.path
  match Path.parent? path with
  | some parent => createDirectories parent
  | none => pure ()
  writeText path (cleaned file.source)
  return path

/- Write files below a directory; these are their paths. -/
def writeAll
    (output : String)
    (files : List GeneratedFile) :
    FileAction m (List String) := do
  createDirectories output
  files.mapM (writeFile output)

end ClientGen.Files
