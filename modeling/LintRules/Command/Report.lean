import LintRules.Json.Printer
import LintRules.Registry

/-!
# Reports of registries

The registered rules and processors in order, either as lines of text or as JSON.
-/

namespace LintRules

/-- What a load has registered. -/
structure Report where
  rules : RuleRegistry
  processors : ProcessorRegistry

namespace Report

/-- The line of a rule: its id, its capabilities, and its description if it has one. -/
def ruleLine (id : String) (handler : Handler) : String :=
  match handler.description with
  | some description =>
    Text.padRight 40 id ++ " " ++ Text.padRight 9 handler.capabilities.text ++ " " ++ description
  | none => Text.padRight 40 id ++ " " ++ handler.capabilities.text

/-- The line of a processor. -/
def processorLine (name : String) (processor : Processor) : String :=
  "processor " ++ Text.padRight 30 name ++ " " ++ ", ".intercalate processor.extensions

/-- The lines of a report. -/
def lines (report : Report) : List String :=
  (if report.rules.isEmpty then ["No rules found."] else []) ++
    (report.rules.entries.map (fun e => ruleLine e.1 e.2) ++
      report.processors.entries.map fun e => processorLine e.1 e.2)

/-- A rule as an object. -/
def ruleJson (id : String) (handler : Handler) : Json :=
  .obj [("id", .str id), ("capabilities", handler.capabilities.toJson),
    ("description", Json.ofText? handler.description)]

/-- A processor as an object. -/
def processorJson (name : String) (processor : Processor) : Json :=
  .obj [("name", .str name), ("extensions", .arr (processor.extensions.map .str))]

/-- The report as an object; the members of all objects are sorted. -/
def toJson (report : Report) : Json :=
  Json.sorted (.obj [
    ("rules", .arr (report.rules.entries.map fun e => ruleJson e.1 e.2)),
    ("processors", .arr (report.processors.entries.map fun e => processorJson e.1 e.2))])

/-- The text that is printed. -/
def text (report : Report) (json : Bool) : String :=
  if json then report.toJson.pretty ++ "\n"
  else String.join (report.lines.map (· ++ "\n"))

end Report
end LintRules
