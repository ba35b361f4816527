import ClientGen.Command.Report

/-
  The program, on the files of the machine it runs on.

  Key definitions include:
    * `main`
-/

namespace ClientGen

open ClientGen.Command ClientGen.Files

/- What has gone wrong with a file. -/
def fileErrorOf : IO.Error → FileError
  | .noFileOrDirectory _ _ _ => .notFound
  | .alreadyExists _ _ _ => .alreadyExists
  | .inappropriateType _ number _ =>
      if number = 20 then .notDirectory else .isDirectory
  | .invalidArgument _ number message =>
      if number = 36 then .nameTooLong
      else if number = 22 then .invalidName
      else .other message
  | e => .other (toString e)

/- An action on files, its errors told apart. -/
def attempting
    {α : Type}
    (action : IO α) :
    IO (Except FileError α) := do
  match ← action.toBaseIO with
  | .ok a => return .ok a
  | .error e => return .error (fileErrorOf e)

/- Whether an action on files succeeds. -/
def succeeds
    {α : Type}
    (action : IO α) :
    IO Bool := do
  return (← attempting action).isOk

instance : FileSystem IO where
  read path := attempting (IO.FS.readFile path)
  write path text := attempting (IO.FS.writeFile path text)
  makeDirectory path := attempting (IO.FS.createDir path)
  isDirectory path :=
    succeeds (IO.FS.Handle.mk (path ++ "/.") .read)
  isPresent path := succeeds (IO.FS.Handle.mk path .read)

/- The directory that settings of users are kept in. -/
def settingsDirectory : IO (Option String) := do
  match ← IO.getEnv "XDG_CONFIG_HOME" with
  | some directory =>
      if Path.isAbsolute directory then
        return some directory
  | none => pure ()
  return (← IO.getEnv "HOME").map (Path.join · ".config")

/- Do what the arguments ask, and show the report on it. -/
def runProgram
    (arguments : List String) :
    IO UInt32 := do
  let currentDirectory := toString (← IO.currentDir)
  let settingsFile := (← settingsDirectory).map
    (Path.join · "quill/config.toml")
  let report ←
    execute ⟨currentDirectory, settingsFile⟩ arguments
  IO.print report.output
  IO.eprint report.errors
  return UInt32.ofNat report.status

end ClientGen

/- Run the program. -/
def main
    (arguments : List String) :
    IO UInt32 :=
  ClientGen.runProgram arguments
