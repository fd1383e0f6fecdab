import TokenConformance.Standard.Template

/-! # Rules

* `Requirement`: what a rule asks of a contract, a member of some shape or a property of bodies.
* `Rule`, `Category`, `RuleSet`: rules with their numbers, in the order of the checklist.
* `Requirement.title`: the line of the checklist.
-/

namespace TokenConformance

/-- What a rule asks of a contract. -/
inductive Requirement where
  /-- There is a function of the shape. -/
  | function (template : FunctionTemplate)
  /-- There is an event of the shape. -/
  | event (template : EventTemplate)
  /-- No modifier from outside of libraries is applied to any of the functions. -/
  | noCustomModifiers (functions : List FunctionTemplate)
  /-- The function emits the event, itself or in a function that it calls. -/
  | emitsEvent (function : FunctionTemplate) (event : EventTemplate)
  /-- No condition that reads a balance gates a write in the function. -/
  | noBalanceGuard (function : FunctionTemplate)
deriving DecidableEq

namespace Requirement

/-- The line of the checklist. -/
def title : Requirement → String
  | function t => t.text
  | event t => t.text
  | noCustomModifiers _ => "No custom modifiers on core functions"
  | emitsEvent f e => f.name ++ " must emit " ++ e.text
  | noBalanceGuard f => f.name ++ " does not check the caller's balance"

end Requirement

/-- A requirement with its number. -/
structure Rule where
  id : String
  requirement : Requirement
deriving DecidableEq

/-- Rules under one heading. -/
structure Category where
  name : String
  /-- Whether a violation fails the contract. -/
  gating : Bool
  rules : List Rule
deriving DecidableEq

/-- The rules of a standard. -/
abbrev RuleSet := List Category

/-- All rules of a rule set. -/
def RuleSet.rules (rs : RuleSet) : List Rule := rs.flatMap (·.rules)

end TokenConformance
