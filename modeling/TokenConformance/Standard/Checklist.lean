import TokenConformance.Standard.Evaluation

/-! # Checklists and verdicts

* `CheckResult`, `CategoryResult`: what becomes of the rules of a rule set.
* `RuleSet.run`: evaluates every rule. A rule without an answer counts as violated.
* `Level`, `Verdict`, `verdict`: what follows for the contract. Only violations in gating
  categories count.
-/

namespace TokenConformance

/-- What becomes of a rule. -/
structure CheckResult where
  ruleId : String
  title : String
  outcome : Outcome
  detail : Option String
deriving DecidableEq, Inhabited

/-- What becomes of the rules of a category. -/
structure CategoryResult where
  name : String
  gating : Bool
  results : List CheckResult
deriving DecidableEq, Inhabited

/-- Evaluates a rule. -/
def Rule.check (c : FlatContract) (r : Rule) : CheckResult :=
  let evaluation :=
    match r.requirement.evaluate c with
    | .ok evaluation => evaluation
    | .error failure => .violated ("rule could not be evaluated: " ++ failure.message)
  ⟨r.id, r.requirement.title, evaluation.outcome, evaluation.detail⟩

/-- Evaluates every rule of a rule set, in order. -/
def RuleSet.run (rs : RuleSet) (c : FlatContract) : List CategoryResult :=
  rs.map fun category => ⟨category.name, category.gating, category.rules.map (Rule.check c)⟩

/-! ## Verdicts -/

/-- Whether a contract conforms to a standard. -/
inductive Level where
  | conformant
  | nonConformant
deriving DecidableEq, Inhabited

namespace Level

/-- The word in reports. -/
def text : Level → String
  | conformant => "CONFORMANT"
  | nonConformant => "NON_CONFORMANT"

/-- The exit status of a check with this level. -/
def exitCode : Level → Int32
  | conformant => 0
  | nonConformant => 1

end Level

/-- What follows from a checklist. -/
structure Verdict where
  level : Level
  policy : String
  reason : String
  /-- The violated rules of gating categories. -/
  violated : List String
  /-- The violated rules of other categories. -/
  advisory : List String
  exitCode : Int32
deriving DecidableEq, Inhabited

/-- The violated rules in the categories that are gating, or in those that are not. -/
def violatedIn (gating : Bool) (cs : List CategoryResult) : List String :=
  (((cs.filter fun c => c.gating = gating).flatMap (·.results)).filter fun r =>
    r.outcome = .violated).map (·.ruleId)

/-- The verdict on a checklist. -/
def verdict (cs : List CategoryResult) : Verdict :=
  let violated := violatedIn true cs
  let level := if violated = [] then Level.conformant else .nonConformant
  { level
    policy := "gating-categories"
    reason :=
      if violated = [] then "every gating rule is satisfied or not applicable"
      else toString violated.length ++ " gating rule(s) violated"
    violated
    advisory := violatedIn false cs
    exitCode := level.exitCode }

end TokenConformance
