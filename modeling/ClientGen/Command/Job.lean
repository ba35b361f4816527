import ClientGen.Files.Output
import ClientGen.Model.Document
import ClientGen.Settings.Settings

/-
  The job of generating clients: a model is loaded, files
  are generated from it and written.

  Key definitions include:
    * `Job`
    * `Job.assemble`
    * `LoadError`
    * `loadModel`
    * `JobError`
    * `Job.generate`
    * `runSettings`
-/

namespace ClientGen.Command

open ClientGen.Client ClientGen.Files ClientGen.Model
open ClientGen.Settings

------------------------------------------------------------
-- Errors
------------------------------------------------------------

/- What a job can not do without. -/
inductive Requirement where
  | model
  | outputDirectory
  | modelPath
  deriving DecidableEq, Repr

/- What is said of a requirement that is not met. -/
def Requirement.message : Requirement → String
  | .model => "model is required"
  | .outputDirectory => "output_dir is required"
  | .modelPath => "codegen.model_path is required"

/- Why a model can not be loaded. -/
inductive LoadError where
  | file (e : FileError)
  | model (e : ModelError)
  deriving DecidableEq, Repr

/- The wording of an error. -/
def LoadError.message : LoadError → String
  | .file e => e.message
  | .model e => e.message.getD "malformed document"

/- Why a job is not done. -/
inductive JobError where
  | required (what : Requirement)
  | load (e : LoadError)
  | generation (e : GenerationError)
  | file (e : FileError)
  deriving DecidableEq, Repr

/-
  The wording of an error, and after it that of its cause if
  there is one.
-/
def JobError.messages : JobError → List String
  | .required what => [what.message]
  | .load e =>
      ["Failed to load service model: " ++ e.message,
        e.message]
  | .generation e => [e.message]
  | .file e => [e.message]

------------------------------------------------------------
-- Jobs
------------------------------------------------------------

/- What to generate, where, and how. -/
structure Job where
  service : Service
  outputDirectory : String
  emitter : Emitter
  deriving DecidableEq, Repr

namespace Job

/- The job that is made of these, as far as they are known. -/
def assemble
    (service : Option Service)
    (outputDirectory : Option String)
    (emitter : Option Emitter) :
    Except JobError Job :=
  match service, outputDirectory with
  | none, _ => .error (.required .model)
  | some _, none => .error (.required .outputDirectory)
  | some service, some outputDirectory =>
      .ok {
        service
        outputDirectory
        emitter := emitter.getD Emitter.standard }

/- The files of a job. -/
def generate
    (j : Job) :
    Except JobError (List GeneratedFile) :=
  (Client.generate j.service j.emitter).mapError
    JobError.generation

end Job

------------------------------------------------------------
-- Running
------------------------------------------------------------

variable {m : Type → Type} [Monad m] [FileSystem m]

/- The model in a file. -/
def loadModel
    (path : String) :
    ExceptT LoadError m Service := do
  let text ← ExceptT.adapt LoadError.file (readText path)
  match Service.ofDocument text with
  | .ok service => return service
  | .error e => throw (.model e)

/- Do a job; these are the paths of the files. -/
def Job.run
    (j : Job) :
    ExceptT JobError m (List String) := do
  let files ← ExceptT.mk (pure j.generate)
  ExceptT.adapt JobError.file
    (writeAll j.outputDirectory files)

/- Do the job that settings describe. -/
def runSettings
    (s : Settings) :
    ExceptT JobError m (List String) := do
  match s.locations.modelPath with
  | none => throw (.required .modelPath)
  | some path =>
      let service ←
        ExceptT.adapt JobError.load (loadModel path)
      Job.run {
        service
        outputDirectory := s.locations.outputDirectory
        emitter := s.emitter }

end ClientGen.Command
