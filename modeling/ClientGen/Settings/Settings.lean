import ClientGen.Client.Generate
import ClientGen.Files.System
import ClientGen.Toml.Document

/-
  The settings of a run, and the documents they are kept in.

  Key definitions include:
    * `Settings`
    * `Settings.standard`
    * `Settings.ofDocument`
    * `Settings.toDocument`
    * `SettingsError`
    * `Settings.load`
    * `Settings.find`
    * `Settings.save`

  Everything in a document is optional.  What it does not
  say is as in the standard settings.
-/

namespace ClientGen.Settings

open ClientGen.Client ClientGen.Files ClientGen.Toml

------------------------------------------------------------
-- Settings
------------------------------------------------------------

/- Where a model comes from and where files go. -/
structure Locations where
  modelPath : Option String
  outputDirectory : String
  deriving DecidableEq, Repr

/- Which events are logged, and where. -/
structure Logging where
  level : String
  file : Option String
  deriving DecidableEq, Repr

/- No model, output in a directory of its own. -/
def Locations.standard
    (currentDirectory : String) :
    Locations where
  modelPath := none
  outputDirectory := Path.join currentDirectory "generated-src"

/- Events of interest to users, shown to them. -/
def Logging.standard : Logging where
  level := "info"
  file := none

end ClientGen.Settings

namespace ClientGen

/- The settings of a run. -/
structure Settings where
  locations : Settings.Locations
  logging : Settings.Logging
  emitter : Client.Emitter
  deriving DecidableEq, Repr

end ClientGen

namespace ClientGen.Settings

open ClientGen.Client ClientGen.Files ClientGen.Toml

/- The settings where nothing else is said. -/
def standard
    (currentDirectory : String) :
    Settings where
  locations := Locations.standard currentDirectory
  logging := Logging.standard
  emitter := Emitter.standard

------------------------------------------------------------
-- Reading
------------------------------------------------------------

/-
  What a section says: a value for each of some names, or
  values in the order of the names.
-/
inductive SectionContent where
  | named (entries : Entries)
  | listed (items : List Value)

/-
  The section that a value stands for.  A moment has a name
  of its own for what it says, which no section has.
-/
def SectionContent.ofValue : Value → Option SectionContent
  | .table _ entries => some (.named entries)
  | .moment _ => some (.named [])
  | .array items => some (.listed items)
  | .tables items =>
      some (.listed (items.map (.table .declared)))
  | _ => none

/- What is said of the name at a position. -/
def SectionContent.value?
    (s : SectionContent)
    (position : Nat)
    (name : String) :
    Option Value :=
  match s with
  | .named entries => entries.lookup name
  | .listed items => items[position]?

/- A text among the settings. -/
def textOf : Value → Option String
  | .text s => some s
  | _ => none

/- A truth value among the settings. -/
def flagOf : Value → Option Bool
  | .flag b => some b
  | _ => none

/- A setting with a standard value. -/
def SectionContent.orStandard
    {α : Type}
    (s : SectionContent)
    (position : Nat)
    (name : String)
    (read : Value → Option α)
    (standard : α) :
    Option α :=
  match s.value? position name with
  | some v => read v
  | none => some standard

/- A setting that may be left out, but not from a list. -/
def SectionContent.orAbsent
    (s : SectionContent)
    (position : Nat)
    (name : String) :
    Option (Option String) :=
  match s.value? position name, s with
  | some v, _ => (textOf v).map some
  | none, .named _ => some none
  | none, .listed _ => none

/- The locations that a section gives. -/
def readLocations
    (standard : Locations)
    (s : SectionContent) :
    Option Locations := do
  let modelPath ← s.orAbsent 0 "model_path"
  let outputDirectory ← s.orStandard 1 "output_dir" textOf
    standard.outputDirectory
  some ⟨modelPath, outputDirectory⟩

/- What a section says of logging. -/
def readLogging
    (standard : Logging)
    (s : SectionContent) :
    Option Logging := do
  let level ← s.orStandard 0 "level" textOf standard.level
  let file ← s.orAbsent 1 "file"
  some ⟨level, file⟩

/- What a section says of the emitter. -/
def readEmitter
    (standard : Emitter)
    (s : SectionContent) :
    Option Emitter := do
  let marks ← s.orStandard 0 "generated_annotation" flagOf
    standard.marks
  let markerValue ← s.orStandard 1 "generated_value" textOf
    standard.markerValue
  let fileComment ← s.orAbsent 2 "file_comment"
  some ⟨marks, markerValue, fileComment⟩

/- Whether entries are readable where they are not known. -/
def othersAreReadable
    (known : List String)
    (entries : Entries) :
    Bool :=
  entries.all fun (name, v) =>
    known.contains name || v.isReadable

/-
  Whether a section is readable where it is not known.  What
  comes after the known items of a list is not read.
-/
def SectionContent.isReadable
    (known : List String) :
    SectionContent → Bool
  | .named entries => othersAreReadable known entries
  | .listed _ => true

/- What a section of a document says, if it is there. -/
def readSection
    {α : Type}
    (entries : Entries)
    (name : String)
    (known : List String)
    (read : α → SectionContent → Option α)
    (standard : α) :
    Option α :=
  match entries.lookup name with
  | some v => do
      let s ← SectionContent.ofValue v
      if s.isReadable known then read standard s else none
  | none => some standard

/- The settings that a document describes. -/
def ofDocument
    (standard : Settings)
    (text : String) :
    Option Settings := do
  let entries ← Document.ofText text
  let locations ←
    readSection entries "codegen"
      ["model_path", "output_dir"]
      readLocations standard.locations
  let logging ←
    readSection entries "logging" ["level", "file"]
      readLogging standard.logging
  let emitter ←
    readSection entries "emitter"
      ["generated_annotation", "generated_value",
        "file_comment"]
      readEmitter standard.emitter
  let known := ["codegen", "logging", "emitter"]
  if othersAreReadable known entries then
    some ⟨locations, logging, emitter⟩
  else none

------------------------------------------------------------
-- Writing
------------------------------------------------------------

/- A setting that may be left out. -/
def optionalSetting
    (name : String)
    (value : Option String) :
    List (String × Setting) :=
  value.toList.map fun s => (name, .text s)

/- The document of settings. -/
def toDocument
    (s : Settings) :
    String :=
  spellSections [
    ⟨"codegen",
      optionalSetting "model_path" s.locations.modelPath ++
      [("output_dir", .text s.locations.outputDirectory)]⟩,
    ⟨"logging",
      [("level", .text s.logging.level)] ++
      optionalSetting "file" s.logging.file⟩,
    ⟨"emitter",
      [("generated_annotation", .flag s.emitter.marks),
        ("generated_value", .text s.emitter.markerValue)] ++
      optionalSetting "file_comment" s.emitter.fileComment⟩]

------------------------------------------------------------
-- Files
------------------------------------------------------------

/- Why there are no settings. -/
inductive SettingsError where
  | file (e : FileError)
  | malformed
  | missing (path : String)
  deriving DecidableEq, Repr

/-
  The wording of an error, and after it that of its cause if
  there is one.
-/
def SettingsError.messages : SettingsError → List String
  | .file e =>
      ["Failed to read config file: " ++ e.message, e.message]
  | .malformed =>
      ["Failed to parse config file: malformed document",
        "malformed document"]
  | .missing path => ["Config file not found at: " ++ path]

variable {m : Type → Type} [Monad m] [FileSystem m]

/- An action that comes up with settings. -/
abbrev SettingsAction
    (m : Type → Type) :
    Type → Type :=
  ExceptT SettingsError m

/- An action on files for the sake of settings. -/
def ofFileAction
    {α : Type}
    (action : FileAction m α) :
    SettingsAction m α :=
  ExceptT.adapt SettingsError.file action

/- The settings in a file. -/
def load
    (standard : Settings)
    (path : String) :
    SettingsAction m Settings := do
  if ← FileSystem.isPresent (m := m) path then
    let text ← ofFileAction (readText path)
    match ofDocument standard text with
    | some settings => return settings
    | none => throw .malformed
  else throw (.missing path)

/-
  The settings in a file if one is given, else those in the
  user's own file if it is there, else the standard ones.
-/
def find
    (standard : Settings)
    (given usual : Option String) :
    SettingsAction m Settings := do
  match given, usual with
  | some path, _ => load standard path
  | none, none => return standard
  | none, some path =>
      if ← FileSystem.isPresent (m := m) path then
        load standard path
      else return standard

/- Keep settings in a file. -/
def save
    (s : Settings)
    (path : String) :
    SettingsAction m Unit :=
  ofFileAction (writeText path s.toDocument)

end ClientGen.Settings
