import TokenConformance.Json.Record
import TokenConformance.Json.Writer
import TokenConformance.Report.Basic

/-! # Reports as JSON

* `Report.toJson`: the value of a report. Missing data are `null`, a missing detail is left out.
* `Report.ofJson?`: the report that a value describes. Unknown fields do not matter.
* `Report.pretty`: the text of a report over several lines.
-/

namespace TokenConformance

namespace Json

/-- A text, or `null`. -/
def ofOption (s : Option String) : Json := (s.map Json.ofString).getD .null

/-- An array of texts. -/
def ofStrings (l : List String) : Json := .array (l.map Json.ofString)

/-- An object with the given fields. -/
def ofFields (fields : List (String × Json)) : Json :=
  .object (fields.map fun (key, value) => (some key, value))

/-- The name of a choice, which may also stand as the only key over `null`. -/
def choice? : Json → Option String
  | .object [(key, .null)] => key
  | j => j.text?

end Json

/-! ## Outcomes and levels -/

/-- The word in reports. -/
def Outcome.text : Outcome → String
  | .satisfied => "SATISFIED"
  | .violated => "VIOLATED"
  | .notApplicable => "NOT_APPLICABLE"

/-- The outcome with a word. -/
def Outcome.ofText? : String → Option Outcome
  | "SATISFIED" => some .satisfied
  | "VIOLATED" => some .violated
  | "NOT_APPLICABLE" => some .notApplicable
  | _ => none

/-- The level with a word. -/
def Level.ofText? : String → Option Level
  | "CONFORMANT" => some .conformant
  | "NON_CONFORMANT" => some .nonConformant
  | _ => none

/-! ## Writing -/

/-- The value of a tool. -/
def Tool.toJson (t : Tool) : Json :=
  .ofFields [("name", .ofString t.name), ("version", .ofString t.version),
    ("commit", .ofOption t.commit)]

/-- The value of a source. -/
def SourceInfo.toJson (s : SourceInfo) : Json :=
  .ofFields [("path", .ofOption s.path), ("size_bytes", .ofInt s.sizeBytes.toNat),
    ("hash", .ofFields [("algorithm", .ofString s.hash.algorithm),
      ("value", .ofString s.hash.value)])]

/-- The value of a contract. -/
def ContractInfo.toJson (c : ContractInfo) : Json :=
  .ofFields [("name", .ofString c.name), ("standard", .ofString c.standard),
    ("ruleset_version", .ofString c.ruleSetVersion)]

/-- The value of an analysis. -/
def Analysis.toJson (a : Analysis) : Json :=
  .ofFields [("status", .ofString a.status), ("warnings", .ofStrings a.warnings)]

/-- The value of a result. -/
def CheckResult.toJson (r : CheckResult) : Json :=
  .ofFields ([("rule_id", .ofString r.ruleId), ("title", .ofString r.title),
    ("outcome", .ofString r.outcome.text)] ++
    (r.detail.map fun d => ("detail", .ofString d)).toList)

/-- The value of a category. -/
def CategoryResult.toJson (c : CategoryResult) : Json :=
  .ofFields [("name", .ofString c.name), ("gating", .bool c.gating),
    ("results", .array (c.results.map CheckResult.toJson))]

/-- The value of a verdict. -/
def Verdict.toJson (v : Verdict) : Json :=
  .ofFields [("level", .ofString v.level.text), ("policy", .ofString v.policy),
    ("reason", .ofString v.reason), ("violated_rule_ids", .ofStrings v.violated),
    ("advisory_rule_ids", .ofStrings v.advisory), ("exit_code", .ofInt v.exitCode.toInt)]

/-- The value of a report. -/
def Report.toJson (r : Report) : Json :=
  .ofFields [("schema_version", .ofString r.schemaVersion), ("tool", r.tool.toJson),
    ("source", r.source.toJson), ("contract", r.contract.toJson),
    ("analysis", r.analysis.toJson),
    ("categories", .array (r.categories.map CategoryResult.toJson)),
    ("verdict", r.verdict.toJson)]

/-- The text of a report over several lines. -/
def Report.pretty (r : Report) : String := r.toJson.pretty

/-! ## Reading -/

/-- Reads a tool. -/
def Tool.ofJson? (j : Json) : Option Tool := do
  let r ← j.record? ["name", "version", "commit"]
  return ⟨← r.required "name" Json.text?, ← r.required "version" Json.text?,
    ← r.optional "commit" Json.text?⟩

/-- Reads a fingerprint. -/
def Fingerprint.ofJson? (j : Json) : Option Fingerprint := do
  let r ← j.record? ["algorithm", "value"]
  return ⟨← r.required "algorithm" Json.text?, ← r.required "value" Json.text?⟩

/-- Reads an integer of 64 bits without a sign. -/
def Json.uint64? (j : Json) : Option UInt64 :=
  (j.intIn? 0 18446744073709551615).map fun i => UInt64.ofNat i.toNat

/-- Reads an integer of 32 bits with a sign. -/
def Json.int32? (j : Json) : Option Int32 := (j.intIn? (-2147483648) 2147483647).map Int32.ofInt

/-- Reads a source. -/
def SourceInfo.ofJson? (j : Json) : Option SourceInfo := do
  let r ← j.record? ["path", "size_bytes", "hash"]
  return ⟨← r.optional "path" Json.text?, ← r.required "size_bytes" Json.uint64?,
    ← r.required "hash" Fingerprint.ofJson?⟩

/-- Reads a contract. -/
def ContractInfo.ofJson? (j : Json) : Option ContractInfo := do
  let r ← j.record? ["name", "standard", "ruleset_version"]
  return ⟨← r.required "name" Json.text?, ← r.required "standard" Json.text?,
    ← r.required "ruleset_version" Json.text?⟩

/-- Reads an analysis. -/
def Analysis.ofJson? (j : Json) : Option Analysis := do
  let r ← j.record? ["status", "warnings"]
  return ⟨← r.required "status" Json.text?, ← r.required "warnings" (Json.listOf? Json.text?)⟩

/-- Reads a result. -/
def CheckResult.ofJson? (j : Json) : Option CheckResult := do
  let r ← j.record? ["rule_id", "title", "outcome", "detail"]
  return ⟨← r.required "rule_id" Json.text?, ← r.required "title" Json.text?,
    ← r.required "outcome" fun j => j.choice?.bind Outcome.ofText?,
    ← r.optional "detail" Json.text?⟩

/-- Reads a category. -/
def CategoryResult.ofJson? (j : Json) : Option CategoryResult := do
  let r ← j.record? ["name", "gating", "results"]
  return ⟨← r.required "name" Json.text?, ← r.required "gating" Json.bool?,
    ← r.required "results" (Json.listOf? CheckResult.ofJson?)⟩

/-- Reads a verdict. -/
def Verdict.ofJson? (j : Json) : Option Verdict := do
  let r ← j.record?
    ["level", "policy", "reason", "violated_rule_ids", "advisory_rule_ids", "exit_code"]
  return ⟨← r.required "level" fun j => j.choice?.bind Level.ofText?,
    ← r.required "policy" Json.text?, ← r.required "reason" Json.text?,
    ← r.required "violated_rule_ids" (Json.listOf? Json.text?),
    ← r.required "advisory_rule_ids" (Json.listOf? Json.text?),
    ← r.required "exit_code" Json.int32?⟩

/-- Reads a report. -/
def Report.ofJson? (j : Json) : Option Report := do
  let r ← j.record?
    ["schema_version", "tool", "source", "contract", "analysis", "categories", "verdict"]
  return ⟨← r.required "schema_version" Json.text?, ← r.required "tool" Tool.ofJson?,
    ← r.required "source" SourceInfo.ofJson?, ← r.required "contract" ContractInfo.ofJson?,
    ← r.required "analysis" Analysis.ofJson?,
    ← r.required "categories" (Json.listOf? CategoryResult.ofJson?),
    ← r.required "verdict" Verdict.ofJson?⟩

end TokenConformance
