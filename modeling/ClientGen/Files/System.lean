import ClientGen.Files.Path

/-
  What programs do with files, whatever keeps the files.

  Key definitions include:
    * `FileError`
    * `FileSystem`
    * `readText`
    * `writeText`
    * `createDirectories`
-/

namespace ClientGen.Files

------------------------------------------------------------
-- Errors
------------------------------------------------------------

/- Why a file can not be used. -/
inductive FileError where
  | notFound
  | alreadyExists
  | notDirectory
  | isDirectory
  | nameTooLong
  | invalidName
  | other (message : String)
  deriving DecidableEq, Repr

/- The wording of an error, with its number. -/
def FileError.message : FileError → String
  | .notFound => "No such file or directory (os error 2)"
  | .alreadyExists => "File exists (os error 17)"
  | .notDirectory => "Not a directory (os error 20)"
  | .isDirectory => "Is a directory (os error 21)"
  | .nameTooLong => "File name too long (os error 36)"
  | .invalidName =>
      "file name contained an unexpected NUL byte"
  | .other message => message

------------------------------------------------------------
-- File Systems
------------------------------------------------------------

/-
  A place where files are kept.  Each operation tells what
  has gone wrong instead of stopping the program.
-/
class FileSystem (m : Type → Type) where
  read : String → m (Except FileError String)
  write : String → String → m (Except FileError Unit)
  makeDirectory : String → m (Except FileError Unit)
  isDirectory : String → m Bool
  isPresent : String → m Bool

variable {m : Type → Type} [Monad m] [FileSystem m]

/- An action on files that may fail. -/
abbrev FileAction
    (m : Type → Type) :
    Type → Type :=
  ExceptT FileError m

/- The text of a file. -/
def readText
    (path : String) :
    FileAction m String :=
  ExceptT.mk (FileSystem.read path)

/- Put a text into a file, which is made if need be. -/
def writeText
    (path text : String) :
    FileAction m Unit :=
  ExceptT.mk (FileSystem.write path text)

------------------------------------------------------------
-- Directories
------------------------------------------------------------

/- Make a directory; one that is there already will do. -/
def ensureDirectory
    (path : String) :
    FileAction m Unit :=
  ExceptT.mk do
    match ← FileSystem.makeDirectory path with
    | .ok () => return .ok ()
    | .error e =>
        if ← FileSystem.isDirectory path then return .ok ()
        else return .error e

/-
  Make a directory and, before it, those it lies in that are
  missing.  The paths go from the directory outwards, and
  the first that is not missing ends the search.
-/
def createOutwards : List String → FileAction m Unit
  | [] => return ()
  | path :: outer =>
      if path = "" || outer.isEmpty then return ()
      else ExceptT.mk do
        match ← FileSystem.makeDirectory path with
        | .ok () => return .ok ()
        | .error .notFound =>
            ExceptT.run do
              createOutwards outer
              ensureDirectory path
        | .error e =>
            if ← FileSystem.isDirectory path then
              return .ok ()
            else return .error e

/- Make a directory with all that it lies in. -/
def createDirectories
    (path : String) :
    FileAction m Unit :=
  createOutwards (Path.ancestors path)

end ClientGen.Files
