import LintRules.Text.Affix

/-!
# Keys of rules

A rule is known by its own name, or by its name inside a preset or a plugin.  Registries hold
rules under the text of their key, in which the three kinds are no longer told apart.
-/

namespace LintRules

/-- What a rule is known by. -/
inductive RuleKey where
  | flat (rule : String)
  | preset (preset rule : String)
  | plugin (plugin rule : String)
  deriving DecidableEq, Repr

namespace RuleKey

/-- The name of the rule itself. -/
def rule : RuleKey → String
  | .flat rule | .preset _ rule | .plugin _ rule => rule

/-- The preset or plugin that the rule belongs to. -/
def bundle? : RuleKey → Option String
  | .flat _ => none
  | .preset bundle _ | .plugin bundle _ => some bundle

/-- The text that a registry holds the rule under. -/
def text : RuleKey → String
  | .flat rule => rule
  | .preset bundle rule | .plugin bundle rule => bundle ++ "/" ++ rule

@[simp] theorem text_flat (rule : String) : (flat rule).text = rule := rfl

@[simp] theorem text_preset (bundle rule : String) :
    (preset bundle rule).text = bundle ++ "/" ++ rule := rfl

@[simp] theorem text_plugin (bundle rule : String) :
    (plugin bundle rule).text = bundle ++ "/" ++ rule := rfl

end RuleKey

/-- Whether a name has the shape of a plugin's rule: something before and something after the
first slash. -/
def isPluginRuleName (name : String) : Bool :=
  match Text.splitAtFirst? '/' name with
  | some (plugin, rule) => plugin ≠ "" && rule ≠ ""
  | none => false

/-- **A plugin's rule** has something before its first slash and something after it. -/
theorem isPluginRuleName_iff {name : String} :
    isPluginRuleName name = true ↔ ∃ plugin rule : String,
      plugin ≠ "" ∧ '/' ∉ plugin.toList ∧ rule ≠ "" ∧ name = plugin ++ "/" ++ rule := by
  constructor
  · intro h
    rw [isPluginRuleName] at h
    split at h
    · next plugin rule hsplit =>
      obtain ⟨hname, hslash⟩ := Text.splitAtFirst?_eq_some_iff.mp hsplit
      rw [Bool.and_eq_true, decide_eq_true_iff, decide_eq_true_iff] at h
      exact ⟨plugin, rule, h.1, hslash, h.2, hname⟩
    · cases h
  · rintro ⟨plugin, rule, hplugin, hslash, hrule, hname⟩
    have hsplit : Text.splitAtFirst? '/' name = some (plugin, rule) :=
      Text.splitAtFirst?_eq_some_iff.mpr ⟨hname, hslash⟩
    rw [isPluginRuleName, hsplit]
    simp [hplugin, hrule]

theorem isPluginRuleName_eq_false {name : String} (h : '/' ∉ name.toList) :
    isPluginRuleName name = false := by
  rw [← Bool.not_eq_true, isPluginRuleName_iff]
  rintro ⟨plugin, rule, -, -, -, rfl⟩
  exact h (by simp)

end LintRules
