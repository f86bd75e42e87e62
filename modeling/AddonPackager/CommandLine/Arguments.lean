import AddonPackager.Build.Config
import AddonPackager.Json.Number
import AddonPackager.Text.Search

/-! Reading the arguments of the command line. Options may stand anywhere behind the command;
short ones can be joined, and a value may be joined to its option. Two dashes end the options.
-/

namespace AddonPackager.CommandLine

/-- Options without a value. -/
inductive Switch where
  | verbose
  | help
  | version
  | release
  | multicompartment
  deriving DecidableEq, Repr

/-- Options with a value. -/
inductive Setting where
  | buildType
  | locales
  | buildNumber
  | keyFile
  | moduleLibrary
  | output
  | host
  | port
  deriving DecidableEq, Repr

/-- What an option is. -/
inductive Meaning where
  | switch (switch : Switch)
  | setting (setting : Setting)
  deriving DecidableEq, Repr

/-- An option with its long name and the letter that stands for it, if there is one. -/
structure OptionName where
  long : String
  short : Option Char
  meaning : Meaning
  deriving DecidableEq, Repr

/-- Arguments that have no meaning. -/
inductive UsageError where
  | missingCommand
  | unknownCommand
  | unknownOption
  | repeated
  | missingValue
  | unexpectedValue
  | invalidValue
  | tooManyPaths
  deriving DecidableEq, Repr

def UsageError.message : UsageError → String
  | .missingCommand => "a command is required"
  | .unknownCommand => "there is no such command"
  | .unknownOption => "there is no such option"
  | .repeated => "an option is given more than once"
  | .missingValue => "an option lacks its value"
  | .unexpectedValue => "an option takes no value"
  | .invalidValue => "a value is invalid"
  | .tooManyPaths => "only one directory can be built"

/-! Options -/

def commonOptions : List OptionName := [
  ⟨"verbose", some 'v', .switch .verbose⟩,
  ⟨"help", some 'h', .switch .help⟩]

def globalOptions : List OptionName :=
  ⟨"version", some 'V', .switch .version⟩ :: commonOptions

def sourceOptions : List OptionName := [
  ⟨"type", some 't', .setting .buildType⟩,
  ⟨"locales", some 'l', .setting .locales⟩,
  ⟨"build", some 'b', .setting .buildNumber⟩,
  ⟨"release", some 'r', .switch .release⟩,
  ⟨"key", some 'k', .setting .keyFile⟩,
  ⟨"multicompartment", none, .switch .multicompartment⟩,
  ⟨"module-library", none, .setting .moduleLibrary⟩] ++ commonOptions

/-- Options of the command that writes an archive. -/
def buildOptions : List OptionName :=
  ⟨"output", some 'o', .setting .output⟩ :: sourceOptions

/-- Options of the command that sends an archive to a browser. -/
def installOptions : List OptionName :=
  ⟨"host", none, .setting .host⟩ :: ⟨"port", none, .setting .port⟩ :: sourceOptions

/-! Given options -/

/-- The options and paths that have been given. -/
structure Given where
  switches : List Switch
  settings : List (Setting × String)
  paths : List String
  deriving DecidableEq, Repr

def Given.empty : Given :=
  ⟨[], [], []⟩

def Setting.isPath : Setting → Bool
  | .keyFile | .moduleLibrary | .output => true
  | _ => false

def readPort? (text : String) : Option Nat :=
  let digits := match text.toList with
    | '+' :: digits => digits
    | digits => digits
  if !digits.isEmpty && digits.all Char.isDigit && Json.ofDigits digits < 0x10000 then
    some (Json.ofDigits digits)
  else
    none

/-- Whether a value is good for a setting: paths are not empty, ports are numbers. -/
def Setting.accepts (setting : Setting) (value : String) : Bool :=
  if setting.isPath then value != ""
  else if setting = .port then (readPort? value).isSome
  else true

/-- Turns a switch on, once. -/
def Given.turnOn (given : Given) (switch : Switch) : Except UsageError Given :=
  if given.switches.contains switch then .error .repeated
  else .ok { given with switches := given.switches ++ [switch] }

/-- Gives a setting its value, once. -/
def Given.assign (given : Given) (setting : Setting) (value : String)
    : Except UsageError Given :=
  if given.settings.any (·.1 == setting) then .error .repeated
  else if !setting.accepts value then .error .invalidValue
  else .ok { given with settings := given.settings ++ [(setting, value)] }

def Given.addPath (given : Given) (path : String) : Except UsageError Given :=
  if !given.paths.isEmpty then .error .tooManyPaths
  else if path = "" then .error .invalidValue
  else .ok { given with paths := [path] }

/-! Tokens -/

/-- Whether a token is an option and cannot be a value. -/
def isOption (token : String) : Bool :=
  Text.startsWith token "-" && token != "-"

/-- The name of a long option and the value joined to it. -/
def long? (token : String) : Option (String × Option String) :=
  (Text.stripPrefix? ['-', '-'] token.toList).map fun named =>
    match Text.splitOnce '=' named with
    | some (name, value) => (String.ofList name, some (String.ofList value))
    | none => (String.ofList named, none)

def longMeaning? (options : List OptionName) (name : String) : Option Meaning :=
  (options.find? fun option => option.long == name).map OptionName.meaning

def shortMeaning? (options : List OptionName) (letter : Char) : Option Meaning :=
  (options.find? fun option => option.short == some letter).map OptionName.meaning

/-- What a token comes to: the options so far, and a setting that still waits for its value. -/
abbrev Step := Except UsageError (Given × Option Setting)

def readLong (options : List OptionName) (given : Given) (name : String)
    (value : Option String) : Step :=
  match longMeaning? options name, value with
  | none, _ => .error .unknownOption
  | some (.switch switch), none => (given.turnOn switch).map ((·, none))
  | some (.switch _), some _ => .error .unexpectedValue
  | some (.setting setting), some value =>
      (given.assign setting value).map ((·, none))
  | some (.setting setting), none => .ok (given, some setting)

/-- Takes joined short options. The rest behind an option with a value is that value. -/
def readShort (options : List OptionName) (given : Given) : List Char → Step
  | [] => .ok (given, none)
  | c :: rest =>
      match shortMeaning? options c with
      | none => .error .unknownOption
      | some (.switch switch) =>
          (given.turnOn switch).bind fun given => readShort options given rest
      | some (.setting setting) =>
          match rest with
          | [] => .ok (given, some setting)
          -- An equals sign in front of a joined value does not count.
          | '=' :: value =>
              (given.assign setting (String.ofList value)).map ((·, none))
          | value => (given.assign setting (String.ofList value)).map ((·, none))

def readOption (options : List OptionName) (given : Given) (token : String) : Step :=
  match long? token with
  | some (name, value) => readLong options given name value
  | none => readShort options given (token.toList.drop 1)

def readArguments (options : List OptionName) (given : Given)
    : List String → Except UsageError Given
  | [] => .ok given
  | token :: rest =>
      if token = "--" then
        rest.foldlM Given.addPath given
      else if isOption token then
        match readOption options given token, rest with
        | .error error, _ => .error error
        | .ok (given, none), rest =>
            if given.switches.contains .help then .ok given
            else readArguments options given rest
        | .ok (_, some _), [] => .error .missingValue
        | .ok (given, some setting), value :: rest =>
            if isOption value then .error .missingValue
            else (given.assign setting value).bind fun given =>
              readArguments options given rest
      else
        (given.addPath token).bind fun given => readArguments options given rest

/-! Commands -/

/-- What a command line asks for. -/
inductive Command where
  | build (config : BuildConfig)
  | install (config : BuildConfig) (host : String) (port : Nat)
  | version
  | help
  deriving DecidableEq, Repr

def Given.value? (given : Given) (setting : Setting) : Option String :=
  (given.settings.find? (·.1 == setting)).map (·.2)

def Given.path? (given : Given) (setting : Setting) : Option DiskPath :=
  (given.value? setting).map DiskPath.mk

/-- The build that has been asked for. -/
def Given.config (given : Given) : BuildConfig :=
  let usual := BuildConfig.ofBase ⟨given.paths.headD "."⟩
  { usual with
    buildType := (given.value? .buildType).getD usual.buildType
    locales := ((given.value? .locales).map Locale.Selection.parse).getD usual.locales
    buildNumber := given.value? .buildNumber
    release := given.switches.contains .release
    multicompartment := given.switches.contains .multicompartment
    keyFile := given.path? .keyFile
    moduleLibrary := given.path? .moduleLibrary
    outFile := given.path? .output }

/-- Reads the arguments of a command, unless help is asked for. -/
def readCommand (options : List OptionName) (make : Given → Command) (arguments : List String)
    : Except UsageError Command :=
  (readArguments options .empty arguments).map fun given =>
    if given.switches.contains .help then .help else make given

def installCommand (given : Given) : Command :=
  .install given.config ((given.value? .host).getD "localhost")
    (((given.value? .port).bind readPort?).getD 8888)

/-- Reads what follows the word for help: nothing, or the name of a command. -/
def readHelp : List String → Except UsageError Command
  | [] => .ok .help
  | [name] =>
      if ["build", "install", "help"].contains name then .ok .help else .error .unknownCommand
  | _ => .error .unknownCommand

def readLine (given : Given) : List String → Except UsageError Command
  | [] => .error .missingCommand
  | token :: rest =>
      if isOption token then
        match readOption globalOptions given token with
        | .error error => .error error
        | .ok (given, _) =>
            if given.switches.contains .help then .ok .help
            else if given.switches.contains .version then .ok .version
            else readLine given rest
      else if token = "build" then readCommand buildOptions (fun given => .build given.config) rest
      else if token = "install" then readCommand installOptions installCommand rest
      else if token = "help" then readHelp rest
      else .error .unknownCommand

end AddonPackager.CommandLine
