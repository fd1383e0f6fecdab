import TokenConformance.Standard.Checklist

/-! # Reports

* `Report`: everything that is told about one check.
* `Report.ofCheck`: the report of a finished check, in the current version of the format.
* `Tally`, `Report.tally`: how many rules have each outcome.
-/

namespace TokenConformance

/-- The program that made a report. -/
structure Tool where
  name : String
  version : String
  commit : Option String
deriving DecidableEq, Inhabited

/-- A digest that identifies a file. -/
structure Fingerprint where
  algorithm : String
  value : String
deriving DecidableEq, Inhabited

/-- The file that was checked. -/
structure SourceInfo where
  path : Option String
  sizeBytes : UInt64
  hash : Fingerprint
deriving DecidableEq, Inhabited

/-- The contract that was checked, and against what. -/
structure ContractInfo where
  name : String
  standard : String
  ruleSetVersion : String
deriving DecidableEq, Inhabited

/-- What is to be said about the analysis. -/
structure Analysis where
  status : String
  warnings : List String
deriving DecidableEq, Inhabited

/-- A finished analysis. -/
def Analysis.ok (warnings : List String) : Analysis := ⟨"ok", warnings⟩

/-- Everything that is told about one check. -/
structure Report where
  schemaVersion : String
  tool : Tool
  source : SourceInfo
  contract : ContractInfo
  analysis : Analysis
  categories : List CategoryResult
  verdict : Verdict
deriving DecidableEq, Inhabited

/-- How many rules have each outcome. -/
structure Tally where
  satisfied : Nat
  violated : Nat
  notApplicable : Nat
deriving DecidableEq, Inhabited

namespace Report

/-- The version of the format. -/
def currentSchema : String := "0.1.0"

/-- The version of the rules. -/
def currentRules : String := "0.1.0"

/-- The report of a finished check. -/
def ofCheck (tool : Tool) (source : SourceInfo) (contract : ContractInfo) (analysis : Analysis)
    (categories : List CategoryResult) (verdict : Verdict) : Report :=
  ⟨currentSchema, tool, source, contract, analysis, categories, verdict⟩

/-- The results of all categories. -/
def results (r : Report) : List CheckResult := r.categories.flatMap (·.results)

/-- How many results have an outcome. -/
def countOf (r : Report) (o : Outcome) : Nat := r.results.countP fun x => x.outcome = o

/-- How many rules have each outcome. -/
def tally (r : Report) : Tally :=
  ⟨r.countOf .satisfied, r.countOf .violated, r.countOf .notApplicable⟩

end Report

end TokenConformance
