import TokenConformance.Report.Basic

/-! # Reports as plain text

* `Report.lines`: the lines of the checklist, one header for a category and one line for a rule.
* `Report.text`: the lines, each with its line end.
-/

namespace TokenConformance

/-- The sign of an outcome at the start of a line. -/
def Outcome.marker : Outcome → String
  | .satisfied => "[✓]"
  | .violated => "[x]"
  | .notApplicable => "[-]"

/-- The line of a rule. -/
def CheckResult.line (r : CheckResult) : String :=
  match r.detail with
  | some detail => r.outcome.marker ++ " " ++ r.title ++ " (" ++ detail ++ ")"
  | none => r.outcome.marker ++ " " ++ r.title

namespace CategoryResult

/-- The header of a category. -/
def header (c : CategoryResult) : String :=
  if c.gating then "== " ++ c.name ++ " ==" else "== " ++ c.name ++ " == (advisory)"

/-- The lines of a category, after an empty one. -/
def lines (c : CategoryResult) : List String := "" :: c.header :: c.results.map CheckResult.line

end CategoryResult

namespace Report

/-- The program as reports call it. -/
def toolName : String := "ercscope"

/-- The line with the level and the tally. -/
def resultLine (r : Report) : String :=
  "Result: " ++ r.verdict.level.text ++ " (" ++ toString r.tally.satisfied ++ " satisfied, " ++
    toString r.tally.violated ++ " violated, " ++ toString r.tally.notApplicable ++
    " not applicable)"

/-- The lines before the checklist. -/
def preamble (r : Report) : List String :=
  [toolName ++ " " ++ r.tool.version,
    "Contract: " ++ r.contract.name ++ " (" ++ r.contract.standard ++ ")"] ++
    (r.source.path.map ("Source: " ++ ·)).toList ++ r.analysis.warnings.map ("warning: " ++ ·)

/-- The lines of the report. -/
def lines (r : Report) : List String :=
  r.preamble ++ r.categories.flatMap CategoryResult.lines ++ ["", r.resultLine]

/-- The report as plain text. -/
def text (r : Report) : String := String.join (r.lines.map (· ++ "\n"))

end Report

end TokenConformance
