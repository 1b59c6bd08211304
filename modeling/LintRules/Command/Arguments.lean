import LintRules.Config.Basic

/-!
# Arguments of the command

Options that name a rule, a preset, a plugin or a rule directory may be repeated; the others may
not.  A value follows its option as the next argument, or in the same argument: after an equality
sign, or directly after the letter of a short option.  A path must not be empty.

`Arguments.parse` is the request that a list of arguments makes, where the first argument that is
wrong counts, and a request for the version counts as soon as it is met.
-/

namespace LintRules

/-- What the command is to do. -/
structure Arguments where
  config : Option Path := none
  rulePaths : List Path := []
  rules : List String := []
  presets : List String := []
  plugins : List String := []
  rulesBaseDirectory : Option Path := none
  json : Bool := false
  watch : Bool := false
  deriving DecidableEq, Repr, Inhabited

/-- An option that takes a value. -/
inductive ValueOption where
  | config
  | rulePath
  | rule
  | preset
  | plugin
  | rulesBaseDirectory
  deriving DecidableEq, Repr

/-- An option without a value. -/
inductive Switch where
  | json
  | watch
  | version
  | help
  deriving DecidableEq, Repr

/-- Why the command does not run. -/
inductive Interruption where
  /-- The arguments are wrong. -/
  | wrongUsage
  | version
  | help
  deriving DecidableEq, Repr

namespace Arguments

/-- The option with a value that has a long name. -/
def valueOption? (name : String) : Option ValueOption :=
  [("config", .config), ("rulesdir", .rulePath), ("rule", .rule), ("preset", .preset),
    ("plugin", .plugin), ("rules-base-directory", .rulesBaseDirectory)].lookup name

/-- The option without a value that has a long name. -/
def switch? (name : String) : Option Switch :=
  [("json", .json), ("watch", .watch), ("version", .version), ("help", .help)].lookup name

/-- Gives an option its value. -/
def give (arguments : Arguments) (option : ValueOption) (value : String) :
    Except Interruption Arguments :=
  match option with
  | .config =>
    if value = "" || arguments.config.isSome then .error .wrongUsage
    else .ok { arguments with config := some value }
  | .rulePath =>
    if value = "" then .error .wrongUsage
    else .ok { arguments with rulePaths := arguments.rulePaths ++ [value] }
  | .rule => .ok { arguments with rules := arguments.rules ++ [value] }
  | .preset => .ok { arguments with presets := arguments.presets ++ [value] }
  | .plugin => .ok { arguments with plugins := arguments.plugins ++ [value] }
  | .rulesBaseDirectory =>
    if value = "" || arguments.rulesBaseDirectory.isSome then .error .wrongUsage
    else .ok { arguments with rulesBaseDirectory := some value }

/-- Turns a switch on. -/
def turnOn (arguments : Arguments) : Switch → Except Interruption Arguments
  | .json =>
    if arguments.json then .error .wrongUsage else .ok { arguments with json := true }
  | .watch =>
    if arguments.watch then .error .wrongUsage else .ok { arguments with watch := true }
  | .version => .error .version
  | .help => .error .help

/-- What an argument says. -/
inductive Word where
  /-- An option whose value is the next argument. -/
  | expectsValue (option : ValueOption)
  | hasValue (option : ValueOption) (value : String)
  | switch (switch : Switch)
  /-- The end of the options. -/
  | stop
  | wrong
  deriving DecidableEq, Repr

/-- What an argument after two hyphens says. -/
def longWord (text : List Char) : Word :=
  match Text.splitFirst? '=' text with
  | some (name, value) =>
    match valueOption? (String.ofList name) with
    | some option => .hasValue option (String.ofList value)
    | none => .wrong
  | none =>
    match valueOption? (String.ofList text), switch? (String.ofList text) with
    | some option, _ => .expectsValue option
    | none, some switch => .switch switch
    | none, none => .wrong

/-- What an argument says. -/
def word (argument : String) : Word :=
  match argument.toList with
  | ['-', '-'] => .stop
  | '-' :: '-' :: text => longWord text
  | ['-', 'c'] => .expectsValue .config
  | '-' :: 'c' :: '=' :: value => .hasValue .config (String.ofList value)
  | '-' :: 'c' :: value => .hasValue .config (String.ofList value)
  | '-' :: 'V' :: _ => .switch .version
  | '-' :: 'h' :: _ => .switch .help
  | _ => .wrong

/-- Whether an argument can be the value of the option before it: it does not look like an
option. -/
def isValue (argument : String) : Bool :=
  match argument.toList with
  | '-' :: _ :: _ => false
  | _ => true

/-- The arguments with those of a list added. -/
def add (arguments : Arguments) : List String → Except Interruption Arguments
  | [] => .ok arguments
  | argument :: rest =>
    match word argument with
    | .switch switch =>
      match arguments.turnOn switch with
      | .ok arguments => add arguments rest
      | .error why => .error why
    | .hasValue option value =>
      match arguments.give option value with
      | .ok arguments => add arguments rest
      | .error why => .error why
    | .expectsValue option =>
      match rest with
      | [] => .error .wrongUsage
      | value :: rest =>
        if isValue value then
          match arguments.give option value with
          | .ok arguments => add arguments rest
          | .error why => .error why
        else .error .wrongUsage
    | .stop => if rest.isEmpty then .ok arguments else .error .wrongUsage
    | .wrong => .error .wrongUsage

/-- The request that a list of arguments makes.  The environment gives the config file where the
arguments do not. -/
def parse (env : Environment) (arguments : List String) : Except Interruption Arguments :=
  match add {} arguments with
  | .error why => .error why
  | .ok arguments =>
    match arguments.config, env.value? "TEXTLINT_CONFIG" with
    | none, some path => arguments.give .config path
    | _, _ => .ok arguments

/-- What the arguments add to a config. -/
def toConfig (arguments : Arguments) : Config where
  rulePaths := arguments.rulePaths
  rules := arguments.rules
  presets := arguments.presets
  plugins := arguments.plugins
  rulesBaseDirectory := arguments.rulesBaseDirectory

end Arguments
end LintRules
