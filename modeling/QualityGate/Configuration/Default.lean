/-!
# The default configuration

The text that a new configuration starts from. It explains the fields, and its checks show what they
are good for.
-/

namespace QualityGate.Configuration

/-- The lines of the default configuration. -/
def defaultLines : List String := [
  "# qgate configuration",
  "#",
  "# Each check selects values from the evaluated JSON document with a JSONPath",
  "# `reference` and judges them with a CEL `condition`. Inside a condition, `$`",
  "# stands for the selected value and `$.path` for a value below it. Conditions",
  "# over collections can use the quantifiers `all`, `any`, `one` and `none`,",
  "# e.g. `all(ref, '$.status == \"success\"')`, where `ref` is the list of values",
  "# selected by the reference.",
  "#",
  "# Check options:",
  "#",
  "#   log                 - path selecting which part of each examined element to report",
  "#   true                - status when the condition holds (default GREEN)",
  "#   false               - status when it does not (default RED)",
  "#   return_if_empty     - status when the reference selects only empty values (default RED)",
  "#   return_if_not_found - status when the reference selects nothing (default RED)",
  "",
  "# Keep examining elements after a quantifier fails, so that every failure is reported",
  "continue_search_on_fail = false",
  "",
  "# Maximum time a single condition may take to evaluate",
  "timeout = \"5s\"",
  "",
  "# What to do when a check cannot be evaluated: \"abort\" or \"report\"",
  "on_error = \"abort\"",
  "",
  "# Combine check statuses into one verdict. Without it, the verdict is the worst status.",
  "concatenation = \"builds_succeeded && (coverage_sufficient || no_critical_issues)\"",
  "",
  "[[checks]]",
  "name = \"builds_succeeded\"",
  "reference = \"$.builds[*]\"",
  "condition = \"all(ref, '$.status == \\\"success\\\"')\"",
  "",
  "[checks.options]",
  "log = \"$.id\"",
  "",
  "[[checks]]",
  "name = \"coverage_sufficient\"",
  "reference = \"$.coverage.percent\"",
  "condition = \"$ >= 80.0\"",
  "",
  "[checks.options]",
  "false = \"YELLOW\"",
  "return_if_not_found = \"YELLOW\"",
  "",
  "[[checks]]",
  "name = \"no_critical_issues\"",
  "reference = \"$.issues[*]\"",
  "condition = \"none(ref, '$.severity == \\\"critical\\\"')\"",
  "",
  "[checks.options]",
  "log = \"$.title\"",
  "return_if_not_found = \"GREEN\""]

/-- The text of the default configuration. -/
def defaultText : String := String.join (defaultLines.map (· ++ "\n"))

/-- The file that a configuration is read from and written to if no other is named. -/
def defaultFile : String := "qgate.toml"

end QualityGate.Configuration
