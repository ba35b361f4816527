import ClientGen.Client.Plan
import ClientGen.Command.Arguments
import ClientGen.Command.Job
import ClientGen.Settings.Filter

/-
  What the program does and says.

  Key definitions include:
    * `Environment`
    * `Report`
    * `CommandError`
    * `overridden`
    * `execute`
-/

namespace ClientGen.Command

open ClientGen.Client ClientGen.Files ClientGen.Model
open ClientGen.Settings

------------------------------------------------------------
-- Errors
------------------------------------------------------------

/- Why logging can not start. -/
inductive LoggingError where
  | filter (level : String) (e : FilterError)
  | file (e : FileError)
  deriving DecidableEq, Repr

/- The wording of an error, and after it its causes. -/
def LoggingError.messages : LoggingError → List String
  | .filter level e =>
      ("Invalid log level '" ++ level ++ "': " ++ e.message) ::
        e.messages
  | .file e =>
      ["Failed to open log file: " ++ e.message, e.message]

/- Why a command fails. -/
inductive CommandError where
  | settings (e : SettingsError)
  | logging (e : LoggingError)
  | load (e : LoadError)
  | job (e : JobError)
  deriving DecidableEq, Repr

namespace CommandError

/- What has failed. -/
def headline : CommandError → String
  | .settings _ => "Configuration error"
  | .logging _ => "Logging setup failed"
  | .load _ => "Could not read service model"
  | .job _ => "Generation failed"

/- Why it has failed, from the outermost cause inwards. -/
def causes : CommandError → List String
  | .settings e => e.messages
  | .logging e => e.messages
  | .load e => [e.message]
  | .job e => e.messages

/- What is shown to users: the error and then its causes. -/
def text
    (e : CommandError) :
    String :=
  String.join
    ((("error: " ++ e.headline) ::
      e.causes.map ("  caused by: " ++ ·)).map (· ++ "\n"))

/-
  The status that a command ends with.  A filter that is cut
  within a character stops the program at once.
-/
def status : CommandError → Nat
  | .logging (.filter _ .brokenCharacter) => 101
  | _ => 1

end CommandError

------------------------------------------------------------
-- Settings
------------------------------------------------------------

/-
  Where the program runs, and the file with the settings of
  its user.
-/
structure Environment where
  currentDirectory : String
  settingsFile : Option String
  deriving DecidableEq, Repr

/- Settings with what is said on the command line. -/
def overridden
    (s : Settings)
    (model : String)
    (output logLevel : Option String) :
    Settings :=
  { s with
    locations := {
      modelPath := some model
      outputDirectory :=
        output.getD s.locations.outputDirectory }
    logging := {
      s.logging with
      level := logLevel.getD s.logging.level } }

variable {m : Type → Type} [Monad m] [FileSystem m]

/- The settings for a command line. -/
def resolveSettings
    (environment : Environment)
    (model : String)
    (output config logLevel : Option String) :
    SettingsAction m Settings := do
  let standard :=
    Settings.standard environment.currentDirectory
  let found ←
    Settings.find standard config environment.settingsFile
  return overridden found model output logLevel

------------------------------------------------------------
-- Commands
------------------------------------------------------------

/- Check what is to be logged, and clear the file for it. -/
def startLogging
    (s : Logging) :
    ExceptT LoggingError m Unit := do
  match checkFilter s.level with
  | .error e => throw (.filter s.level e)
  | .ok () =>
      match s.file with
      | none => return ()
      | some path =>
          ExceptT.adapt LoggingError.file (writeText path "")

/- Generate clients; the paths of all files are shown. -/
def runGenerate
    (environment : Environment)
    (model : String)
    (output config logLevel : Option String) :
    ExceptT CommandError m String := do
  let settings ← ExceptT.adapt CommandError.settings
    (resolveSettings environment model output config logLevel)
  ExceptT.adapt CommandError.logging
    (startLogging settings.logging)
  let paths ← ExceptT.adapt CommandError.job
    (runSettings settings)
  return String.join (paths.map (· ++ "\n"))

/- Show what would be generated for a model. -/
def runInspect
    (model : String) :
    ExceptT CommandError m String := do
  let service ← ExceptT.adapt CommandError.load
    (loadModel model)
  match Plan.ofService service with
  | .ok plan => return plan.text
  | .error e => throw (.job (.generation e))

------------------------------------------------------------
-- Reports
------------------------------------------------------------

/-
  What the program leaves behind: its status, its output,
  and what it says of errors.
-/
structure Report where
  status : Nat
  output : String
  errors : String
  deriving DecidableEq, Repr

/- The report on a command. -/
def Report.ofResult : Except CommandError String → Report
  | .ok output => ⟨0, output, ""⟩
  | .error e => ⟨e.status, "", e.text⟩

/- The name of the program and its version. -/
def versionText : String :=
  "quill 0.1.0\n"

/- How the program is used. -/
def usageText : String :=
  String.join
    (["Generate protocol-aware Java clients from service " ++
        "models",
      "",
      "Usage: quill <COMMAND>",
      "",
      "Commands:",
      "  generate --model <MODEL> [--output <OUTPUT>] " ++
        "[--config <CONFIG>] [--log-level <LOG_LEVEL>]",
      "  inspect --model <MODEL>"].map (· ++ "\n"))

/- Do what the arguments ask. -/
def execute
    (environment : Environment)
    (arguments : List String) :
    m Report := do
  match readArguments arguments with
  | .generate model output config logLevel =>
      return Report.ofResult
        (← (runGenerate environment model output config
          logLevel).run)
  | .inspect model =>
      return Report.ofResult (← (runInspect model).run)
  | .version => return ⟨0, versionText, ""⟩
  | .help => return ⟨0, usageText, ""⟩
  | .invalid => return ⟨2, "", usageText⟩

end ClientGen.Command
