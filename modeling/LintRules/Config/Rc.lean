import LintRules.Config.Basic
import LintRules.Files
import LintRules.Yaml.Value

/-!
# Rc files

An rc file is a YAML document with up to three fields: `rules` maps names to `true`, `false` or
options, `plugins` is a list of names or a mapping from names to truth values, and
`rulesBaseDirectory` is a path.  Fields of other names are left unread.

* `Rc.read`, `Rc.ofText`: the rc file that a document and a text hold.
* `Config.applyRc`: the config with an rc file applied.  When the options of a rule cannot be
  written as JSON the rules before it stay applied, and nothing after it is.
* `Config.applyText`, `Config.loadRc`: the same from a text and from a file.
-/

namespace LintRules

open Yaml

/-! ## Reading -/

/-- The plugins of an rc file. -/
inductive PluginList where
  | list (names : List String)
  /-- Plugins switched on and off. -/
  | switches (table : Table Bool)

namespace PluginList

/-- The plugins that are on, in order. -/
def enabled : PluginList → List String
  | .list names => names
  | .switches table => (table.entries.filter (·.2)).map (·.1)

/-- A text as it stands. -/
def text? : Value → Option String
  | .text s => some s
  | _ => none

/-- A text with a truth value. -/
def switch? : Value × Value → Option (String × Bool)
  | (.text s, .bool b) => some (s, b)
  | _ => none

/-- A list of texts, or a mapping from texts to truth values. -/
def ofValue? : Value → Option PluginList
  | .seq items => (items.mapM text?).map .list
  | .map entries => (entries.mapM switch?).map fun l => .switches (.ofList l)
  | _ => none

/-- The plugins at a node one level below the root. -/
def read (place : Location) (node : Node) : Except ShapeError PluginList := do
  let value ← Value.read .undecided (Value.depthLimit - 1) place node
  match ofValue? value with
  | some plugins => .ok plugins
  | none => .error (.misfit none (.noAlternative "RcPlugins"))

end PluginList

/-- What an rc file says. -/
structure Rc where
  rules : Table Value := .empty
  plugins : Option PluginList := none
  rulesBaseDirectory : Option Path := none

namespace Rc

/-- The fields of an rc file. -/
def shape : RecordShape Rc where
  expected := "struct RcFile"
  lenient := true
  fields := [
    ⟨"rules", fun place node rc => do
      let rules ← readTable (Value.read .anyValue (Value.depthLimit - 2)) place node
      return { rc with rules }⟩,
    ⟨"plugins", fun place node rc => do
      let plugins ← readOptional (PluginList.read place) node
      return { rc with plugins }⟩,
    ⟨"rulesBaseDirectory", fun place node rc => do
      let rulesBaseDirectory ← readOptional (readText "path string" place) node
      return { rc with rulesBaseDirectory }⟩]

/-- The rc file that a document holds. -/
def read (document : Document) : Except ShapeError Rc :=
  document.readRecord shape {} .ok

/-- The rc file of a text. -/
def ofText (text : String) : Except Unreadable Rc := readDocument shape.isRead read text

end Rc

/-! ## Applying -/

/-- Why a config cannot be had from an rc file. -/
inductive ConfigError where
  | file (e : FileError)
  | unreadable (path : Path) (why : Unreadable)
  /-- Options that cannot be written as JSON. -/
  | options (rule : String) (why : Value.KeyError)
  deriving DecidableEq, Repr

/-- The reason in words. -/
def ConfigError.message : ConfigError → String
  | .file e => "IO error: " ++ e.message
  | .unreadable path why => "Failed to parse config file " ++ path ++ ": " ++ why.message
  | .options rule why =>
    "Invalid config: options of rule '" ++ rule ++ "': " ++ why.message

namespace Config

/-- Appends a name to the presets or to the rules, whichever it belongs to. -/
def addReference (config : Config) (name : String) : Config :=
  if config.naming.isPreset name then { config with presets := config.presets ++ [name] }
  else { config with rules := config.rules ++ [name] }

/-- A rule of an rc file with its value: `false` switches it off, and any value but a truth value
and null holds its options. -/
def applyRule (config : Config) (name : String) : Value → Except Value.KeyError Config
  | .bool false => .ok { config with disabledRules := config.disabledRules ++ [name] }
  | .bool true | .null => .ok (config.addReference name)
  | value => do
    let options ← value.toJson
    return { config with rulesConfig := config.rulesConfig.insert name options }.addReference name

/-- The rules of an rc file one after another: the config reached, and why the next rule could not
be applied. -/
def applyRules (config : Config) : List (String × Value) → Config × Except ConfigError Unit
  | [] => (config, .ok ())
  | (name, value) :: rest =>
    match config.applyRule name value with
    | .ok config => applyRules config rest
    | .error why => (config, .error (.options name why))

/-- A base directory given in an rc file: a relative one is below the directory of the file. -/
def baseDirectory (rcPath dir : Path) : Path :=
  if Path.isAbsolute dir then dir
  else match Path.parent? rcPath with
    | some parent => Path.join parent dir
    | none => dir

/-- The config with an rc file applied: the config reached, and why it was not applied to its
end. -/
def applyRc (config : Config) (rc : Rc) (path : Path) : Config × Except ConfigError Unit :=
  match config.applyRules rc.rules.entries with
  | (config, .error e) => (config, .error e)
  | (config, .ok ()) =>
    let plugins := (rc.plugins.map (·.enabled)).getD []
    ({ config with
        plugins := config.plugins ++ plugins
        rulesBaseDirectory :=
          (rc.rulesBaseDirectory.map (baseDirectory path)).or config.rulesBaseDirectory },
      .ok ())

/-- The config with the text of an rc file applied. -/
def applyText (config : Config) (text : String) (path : Path) :
    Config × Except ConfigError Unit :=
  match Rc.ofText text with
  | .ok rc => config.applyRc rc path
  | .error why => (config, .error (.unreadable path why))

/-- The config of an rc file, on top of the settings of the environment. -/
def loadRc (files : Files) (env : Environment) (path : Path) : Except ConfigError Config :=
  match files.text path with
  | .error e => .error (.file e)
  | .ok text =>
    match (Config.ofEnvironment env).applyText text path with
    | (config, .ok ()) => .ok config
    | (_, .error e) => .error e

end Config
end LintRules
