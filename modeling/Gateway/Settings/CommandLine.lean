import Gateway.Settings.Basic
import Gateway.Settings.EnvFile

/-!
# Settings from a command line and variables

Every setting has an option and a variable. An option beats the variable, and the variable beats the
default; a variable is not looked at where there is an option. An option takes its value from the
same argument after an equals sign, or from the next argument; in the second case it is only settled
when the next option or the end of the line comes, so that an unknown argument in between is reported
before anything that is wrong with the option itself.
-/

namespace Gateway

/-- Why there are no settings. -/
inductive SettingsError where
  /-- An option without its value, or a variable that is neither `true` nor `false`. -/
  | invalidValue
  /-- A value that is no text. -/
  | invalidUtf8
  | argumentConflict
  /-- A value for an option that takes none. -/
  | tooManyValues
  /-- An argument that is no option. -/
  | unknownArgument
  | displayHelp
  deriving DecidableEq

namespace SettingsError

/-- What is said where settings cannot be read from the variables. -/
def context : String := "Failed to read bridge configuration"

end SettingsError

/-- A setting that takes a text. -/
inductive TextSetting where
  | logFilter
  | pluginName
  | defaultContentType
  deriving DecidableEq

namespace TextSetting

def optionName : TextSetting → String
  | logFilter => "log-filter"
  | pluginName => "plugin-name"
  | defaultContentType => "default-content-type"

def variableName : TextSetting → String
  | logFilter => "UWSGI_RUST_LOG"
  | pluginName => "UWSGI_RUST_PLUGIN"
  | defaultContentType => "UWSGI_RUST_DEFAULT_CONTENT_TYPE"

def fallback : TextSetting → String
  | logFilter => ({} : Settings).logFilter
  | pluginName => ({} : Settings).pluginName
  | defaultContentType => ({} : Settings).defaultContentType

/-- The setting of an option. -/
def ofOption? (name : Bytes) : Option TextSetting :=
  [logFilter, pluginName, defaultContentType].find? fun s => Utf8.ofString s.optionName = name

end TextSetting

/-- The option that colours the log. -/
def ansiOption : Bytes := Utf8.ofString "log-ansi"

/-- The variable that colours the log. -/
def ansiVariable : String := "UWSGI_RUST_LOG_ANSI"

/-- The option that asks for help. -/
def helpOption : Bytes := Utf8.ofString "help"

/-- A command line of which some arguments are read. -/
structure CommandLine where
  /-- The options that are settled. -/
  given : Table TextSetting String := Table.empty
  /-- The log is to be coloured. -/
  ansi : Bool := false
  /-- The option that waits for its value or to be settled. -/
  pending : Option (TextSetting × Option Bytes) := none
  /-- Nothing after this is an option. -/
  trailing : Bool := false

namespace CommandLine

/-- Settles an option. -/
def settle (l : CommandLine) (s : TextSetting) (value : Bytes) : Except SettingsError CommandLine :=
  if l.given.contains s then .error .argumentConflict
  else
    match Utf8.toString? value with
    | none => .error .invalidUtf8
    | some text => .ok { l with given := l.given.insert s text }

/-- Settles the option that waits. -/
def settlePending (l : CommandLine) : Except SettingsError CommandLine :=
  match l.pending with
  | none => .ok l
  | some (_, none) => .error .invalidValue
  | some (s, some value) => { l with pending := none }.settle s value

/-- Reads an option that begins with two dashes. -/
def long (l : CommandLine) (name : Bytes) (value : Option Bytes) :
    Except SettingsError CommandLine :=
  match TextSetting.ofOption? name, value with
  | some s, some v => l.settlePending >>= fun l => l.settle s v
  | some s, none => l.settlePending.map fun l => { l with pending := some (s, none) }
  | none, _ =>
    if name = ansiOption || name = helpOption then
      if value.isSome then .error .tooManyValues
      else
        l.settlePending >>= fun l =>
          if name = helpOption then .error .displayHelp
          else if l.ansi then .error .argumentConflict
          else .ok { l with ansi := true }
    else .error .unknownArgument

/-- Reads an argument that is no option. -/
def value (l : CommandLine) (arg : Bytes) : Except SettingsError CommandLine :=
  match l.pending with
  | some (s, none) => .ok { l with pending := some (s, some arg) }
  | _ => .error .unknownArgument

def dash : UInt8 := 0x2D

def equals : UInt8 := 0x3D

def helpLetter : UInt8 := 0x68

/-- Reads an argument. -/
def step (l : CommandLine) (arg : Bytes) : Except SettingsError CommandLine :=
  if l.trailing then .error .unknownArgument
  else if arg = [dash, dash] then .ok { l with trailing := true }
  else
    match List.isPrefixOf? [dash, dash] arg with
    | some body =>
      l.long (body.takeWhile (· ≠ equals)) ((body.dropWhile (· ≠ equals)).tail?)
    | none =>
      match List.isPrefixOf? [dash] arg with
      | some (letter :: _) =>
        if letter = helpLetter then l.settlePending >>= fun _ => .error .displayHelp
        else .error .unknownArgument
      | _ => l.value arg

/-- Reads the arguments after the name of the program. -/
def read (args : List Bytes) : Except SettingsError CommandLine :=
  (args.drop 1).foldlM step {} >>= settlePending

end CommandLine

namespace Settings

/-- A setting that takes a text: from its option, its variable, or the default. -/
def textOf (l : CommandLine) (v : Variables) (s : TextSetting) : Except SettingsError String :=
  match l.given.get? s, v.get? s.variableName with
  | some text, _ => .ok text
  | none, none => .ok s.fallback
  | none, some value =>
    match Utf8.toString? value with
    | none => .error .invalidUtf8
    | some text => .ok text

/-- Whether the log is to be coloured: from the option, the variable, or the default. -/
def ansiOf (l : CommandLine) (v : Variables) : Except SettingsError Bool :=
  if l.ansi then .ok true
  else
    match v.get? ansiVariable with
    | none => .ok ({} : Settings).logAnsi
    | some value =>
      if value = Utf8.ofString "true" then .ok true
      else if value = Utf8.ofString "false" then .ok false
      else .error .invalidValue

/-- The settings of a command line, completed from the variables. -/
def ofArguments (args : List Bytes) (v : Variables) : Except SettingsError Settings := do
  let l ← CommandLine.read args
  let logFilter ← textOf l v .logFilter
  let logAnsi ← ansiOf l v
  let pluginName ← textOf l v .pluginName
  let defaultContentType ← textOf l v .defaultContentType
  return { logFilter, logAnsi, pluginName, defaultContentType }

/-- The settings of the variables alone, completed from a file of variables where there is one. -/
def ofVariables (v : Variables) (file : Option Bytes) : Except SettingsError Settings :=
  ofArguments [] (match file with
    | none => v
    | some f => EnvFile.load v f)

end Settings

end Gateway
