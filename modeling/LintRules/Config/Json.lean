import LintRules.Config.Basic
import LintRules.Json.Reading

/-!
# Configs as JSON

A config is written as an object with all its fields in a fixed order.  Read back, every field
but those of the naming may be missing, and fields of other names are left unread.

* `Config.toJson`: the object.
* `Config.ofDraft`, `Config.ofJson`: the config that a value or a text holds, or what is wrong.
-/

namespace LintRules
namespace Config

open Json (Draft Refusal)

/-- The config as an object. -/
def toJson (config : Config) : Json :=
  .obj [
    ("rulePaths", .arr (config.rulePaths.map .str)),
    ("rules", .arr (config.rules.map .str)),
    ("presets", .arr (config.presets.map .str)),
    ("plugins", .arr (config.plugins.map .str)),
    ("disabledRules", .arr (config.disabledRules.map .str)),
    ("rulesConfig", .obj config.rulesConfig.entries),
    ("rulesBaseDirectory", Json.ofText? config.rulesBaseDirectory),
    ("naming", .obj [
      ("rulePrefix", .str config.naming.rulePrefix),
      ("pluginPrefix", .str config.naming.pluginPrefix)])]

/-- The fields of a naming. -/
def namingFields : List (Json.Field Naming) := [
  ⟨"rulePrefix", fun d naming => do
    return { naming with rulePrefix := ← Json.readText "a string" d }⟩,
  ⟨"pluginPrefix", fun d naming => do
    return { naming with pluginPrefix := ← Json.readText "a string" d }⟩]

/-- A naming; both fields must be there. -/
def readNaming : Draft → Except Refusal Naming :=
  Json.readRecord "struct NamingConvention" namingFields true {}

/-- A list of texts. -/
def readTexts (expected : String) : Draft → Except Refusal (List String) :=
  Json.readList (Json.readText expected)

/-- How deep collections may nest in a config and, two levels below it, in an option value. -/
def depthLimit : Nat := 127

/-- The fields of a config. -/
def fields : List (Json.Field Config) := [
  ⟨"rulePaths", fun d config => do
    return { config with rulePaths := ← readTexts "path string" d }⟩,
  ⟨"rules", fun d config => do return { config with rules := ← readTexts "a string" d }⟩,
  ⟨"presets", fun d config => do return { config with presets := ← readTexts "a string" d }⟩,
  ⟨"plugins", fun d config => do return { config with plugins := ← readTexts "a string" d }⟩,
  ⟨"disabledRules", fun d config => do
    return { config with disabledRules := ← readTexts "a string" d }⟩,
  ⟨"rulesConfig", fun d config => do
    return { config with rulesConfig := ← Json.readTable (Json.readAny (depthLimit - 2)) d }⟩,
  ⟨"rulesBaseDirectory", fun d config => do
    let dir ← Json.readOptional (Json.readText "path string") d
    return { config with rulesBaseDirectory := dir }⟩,
  ⟨"naming", fun d config => do return { config with naming := ← readNaming d }⟩]

/-- The config that a value holds. -/
def ofDraft : Draft → Except Refusal Config :=
  Json.readRecord "struct Config" fields false {}

/-- The config that a text holds. -/
def ofJson (text : String) : Except Refusal Config :=
  (Json.Source.ofText text).read ofDraft

end Config
end LintRules
