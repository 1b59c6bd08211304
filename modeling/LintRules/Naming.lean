import LintRules.Environment
import LintRules.Text.Affix

/-!
# Names of packages

Packages are published under names with a fixed lead, one for rules and presets and one for
plugins.  A config may leave the lead out, and nothing is registered under it.
-/

namespace LintRules

open Text

/-- The leads of package names. -/
structure Naming where
  rulePrefix : String := "textlint-rule-"
  pluginPrefix : String := "textlint-plugin-"
  deriving DecidableEq, Repr, Inhabited

/-- The lead that tells a preset from a rule, after the lead of rules. -/
def presetLead : String := "preset-"

namespace Naming

/-- The name of a rule or preset without the lead of its package. -/
def stripRule (naming : Naming) (name : String) : String := stripLead naming.rulePrefix name

/-- The name of a plugin without the lead of its package. -/
def stripPlugin (naming : Naming) (name : String) : String := stripLead naming.pluginPrefix name

/-- Whether a name in a list of rules is that of a preset. -/
def isPreset (naming : Naming) (name : String) : Bool :=
  beginsWith presetLead (naming.stripRule name)

/-- The default leads, except for those that the environment gives. -/
def ofEnvironment (env : Environment) : Naming where
  rulePrefix := (env.setting? "TEXTLINT_RULE_PREFIX").getD ({} : Naming).rulePrefix
  pluginPrefix := (env.setting? "TEXTLINT_PLUGIN_PREFIX").getD ({} : Naming).pluginPrefix

@[simp] theorem stripRule_append (naming : Naming) (name : String) :
    naming.stripRule (naming.rulePrefix ++ name) = name :=
  stripLead_append _ _

@[simp] theorem stripPlugin_append (naming : Naming) (name : String) :
    naming.stripPlugin (naming.pluginPrefix ++ name) = name :=
  stripLead_append _ _

end Naming
end LintRules
