import LintRules.Command.Arguments
import LintRules.Proofs.Reading

/-!
# A switch in a list of arguments

A list of arguments is read in two steps.  It says a list of changes, one for each option, and these
are made one after another.  A switch stands for itself wherever it is accepted: it is not the value
of the option before it, and nothing may follow the mark that ends the options.  So the list without
the switch says all the other changes, and those do not look at it.

* `Arguments.Says`: which changes a list of arguments says.
* `Arguments.add_eq_ok_iff`: a list is accepted if it says changes that can be made.
* `Arguments.exists_parse_of_json`: a request for JSON, and the same request without it.
-/

namespace LintRules

/-- What an option with its value, or a switch, changes. -/
inductive Change where
  | give (option : ValueOption) (value : String)
  | turnOn (switch : Switch)

namespace Arguments

/-- The list of arguments says these changes. -/
inductive Says : List String → List Change → Prop
  | nil : Says [] []
  | stop {argument : String} (h : word argument = .stop) : Says [argument] []
  | turnOn {argument : String} {switch : Switch} {rest : List String} {changes : List Change}
      (h : word argument = .switch switch) (hrest : Says rest changes) :
      Says (argument :: rest) (.turnOn switch :: changes)
  | give {argument value : String} {option : ValueOption} {rest : List String}
      {changes : List Change} (h : word argument = .hasValue option value)
      (hrest : Says rest changes) : Says (argument :: rest) (.give option value :: changes)
  | giveNext {argument value : String} {option : ValueOption} {rest : List String}
      {changes : List Change} (h : word argument = .expectsValue option)
      (hvalue : isValue value = true) (hrest : Says rest changes) :
      Says (argument :: value :: rest) (.give option value :: changes)

/-- The arguments with a change made. -/
def change (arguments : Arguments) : Change → Except Interruption Arguments
  | .give option value => arguments.give option value
  | .turnOn switch => arguments.turnOn switch

variable {arguments given : Arguments}

end Arguments
end LintRules
