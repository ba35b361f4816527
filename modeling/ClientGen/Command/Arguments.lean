/-
  The arguments of the program.

  Key definitions include:
    * `Options`
    * `Invocation`
    * `readArguments`

  Options have long names only, are not abbreviated, and are
  given once each.  A value follows its option, as the next
  argument or after an equals sign.  Two dashes alone end
  the options, and nothing may come after them.
-/

namespace ClientGen.Command

------------------------------------------------------------
-- Invocations
------------------------------------------------------------

/- What the options of a command say. -/
structure Options where
  model : Option String
  output : Option String
  config : Option String
  logLevel : Option String
  deriving DecidableEq, Repr

/- What is asked of the program. -/
inductive Invocation where
  | generate
      (model : String)
      (output config logLevel : Option String)
  | inspect (model : String)
  | version
  | help
  | invalid
  deriving DecidableEq, Repr

/- The commands that have options. -/
inductive CommandName where
  | generate
  | inspect
  deriving DecidableEq, Repr

namespace CommandName

/- The command of that name. -/
def ofText? : String → Option CommandName
  | "generate" => some .generate
  | "inspect" => some .inspect
  | _ => none

end CommandName

------------------------------------------------------------
-- Options
------------------------------------------------------------

/- The options. -/
inductive OptionName where
  | model
  | output
  | config
  | logLevel
  deriving DecidableEq, Repr

namespace OptionName

/- The option of that name, if the command has it. -/
def ofText?
    (command : CommandName) :
    String → Option OptionName
  | "model" => some .model
  | "output" =>
      if command = .generate then some .output else none
  | "config" =>
      if command = .generate then some .config else none
  | "log-level" =>
      if command = .generate then some .logLevel else none
  | _ => none

/- Whether an option can be given a value: paths have text. -/
def accepts
    (value : String) :
    OptionName → Bool
  | .logLevel => true
  | _ => value ≠ ""

/- The value of an option so far. -/
def value?
    (o : Options) :
    OptionName → Option String
  | .model => o.model
  | .output => o.output
  | .config => o.config
  | .logLevel => o.logLevel

/- The options with a value for one. -/
def put
    (o : Options)
    (value : String) :
    OptionName → Options
  | .model => { o with model := some value }
  | .output => { o with output := some value }
  | .config => { o with config := some value }
  | .logLevel => { o with logLevel := some value }

/- The options with a value for one that had none so far. -/
def take?
    (o : Options)
    (value : String)
    (name : OptionName) :
    Option Options :=
  if name.accepts value && (name.value? o).isNone then
    some (name.put o value)
  else none

end OptionName

------------------------------------------------------------
-- Arguments
------------------------------------------------------------

/- An argument by its form. -/
inductive Argument where
  | plain
  | short (letters : List Char)
  | long (name : String) (value : Option String)
  deriving DecidableEq, Repr

/- The form of an argument; a dash alone is a plain text. -/
def Argument.ofText
    (text : String) :
    Argument :=
  match text.toList with
  | '-' :: '-' :: rest =>
      let name := String.ofList (rest.takeWhile (· ≠ '='))
      match rest.dropWhile (· ≠ '=') with
      | [] => .long name none
      | _ :: value => .long name (some (String.ofList value))
  | ['-'] => .plain
  | '-' :: letters => .short letters
  | _ => .plain

/- Whether an argument asks for help. -/
def Argument.isHelp : Argument → Bool
  | .long "help" none => true
  | .short ('h' :: _) => true
  | _ => false

/- Whether an argument asks for the version. -/
def Argument.isVersion : Argument → Bool
  | .long "version" none => true
  | .short ('V' :: _) => true
  | _ => false

/- What a command is asked, once all options are known. -/
def Invocation.ofOptions
    (command : CommandName)
    (o : Options) :
    Invocation :=
  match o.model, command with
  | none, _ => .invalid
  | some model, .generate =>
      .generate model o.output o.config o.logLevel
  | some model, .inspect => .inspect model

/- Read the options of a command. -/
def readOptions
    (command : CommandName)
    (o : Options) :
    List String → Invocation
  | [] => Invocation.ofOptions command o
  | ["--"] => Invocation.ofOptions command o
  | text :: rest =>
      let argument := Argument.ofText text
      if argument.isHelp then .help
      else
        match argument, rest with
        | .long name (some value), rest =>
            match (OptionName.ofText? command name).bind
                (·.take? o value) with
            | some o => readOptions command o rest
            | none => .invalid
        | .long name none, value :: rest =>
            if Argument.ofText value = .plain then
              match (OptionName.ofText? command name).bind
                  (·.take? o value) with
              | some o => readOptions command o rest
              | none => .invalid
            else .invalid
        | _, _ => .invalid

/- What the arguments of the program ask. -/
def readArguments : List String → Invocation
  | [] => .invalid
  | "help" :: [] => .help
  | "help" :: topic :: [] =>
      if (CommandName.ofText? topic).isSome || topic = "help"
      then .help
      else .invalid
  | first :: rest =>
      let argument := Argument.ofText first
      if argument.isHelp then .help
      else if argument.isVersion then .version
      else
        match CommandName.ofText? first with
        | some command =>
            readOptions command ⟨none, none, none, none⟩ rest
        | none => .invalid

end ClientGen.Command
