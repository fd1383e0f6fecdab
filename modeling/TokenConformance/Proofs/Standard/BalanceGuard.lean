import TokenConformance.Body.Scope
import TokenConformance.Solidity.Syntax
import TokenConformance.Standard.Erc20
import TokenConformance.Standard.Evaluation

/-! # The rule on balances and the facts about one body

* `Guard.ChecksBalance`: a guard that the rule objects to.
* `evaluateBalance_violated_iff`: the rule is violated exactly by such a guard.
* `FlatContract.withFacts`: a contract in which the facts about one body are replaced.
* `evaluate_noBalanceGuard_violated`: which facts keep a violation.
* `Allowance`: a contract with a function `approve`.
-/

namespace TokenConformance

/-- A guard gates a write and reads a balance. -/
def Guard.ChecksBalance (g : Guard) : Prop :=
  g.gatesWrite = true ∧ ∃ name ∈ g.reads, isBalanceRead name = true

/-- The contract with other facts about the body of one function, and everything else as it is. -/
def FlatContract.withFacts (c : FlatContract) (k : Selector) (facts : BodyFacts) : FlatContract :=
  { c with facts := c.facts.insert k facts }

theorem isSome_balanceRead?_iff {g : Guard} : (balanceRead? g).isSome ↔ g.ChecksBalance := by
  unfold balanceRead? Guard.ChecksBalance
  cases g.gatesWrite with
  | true => simp [OrderedSet.mem_def]
  | false => simp

/-- The rule on balances is violated exactly if the function is there, its facts are known, and
among them is a guard that reads a balance and gates a write. -/
theorem evaluateBalance_violated_iff {c : FlatContract} {t : FunctionTemplate} :
    (evaluateBalance c t).map (·.outcome) = .ok .violated ↔
      ∃ f facts, t.find? c.functions = some f ∧ c.facts.find? f.selector = some facts ∧
        ∃ g ∈ facts.guards, g.ChecksBalance := by
  unfold evaluateBalance
  cases hf : t.find? c.functions with
  | none => simp [Except.map, Evaluation.skipped]
  | some f =>
    cases hfacts : c.facts.find? f.selector with
    | none => simp [Except.map, hfacts]
    | some facts =>
      have hread : (facts.guards.findSome? balanceRead?).isSome ↔
          ∃ g ∈ facts.guards, g.ChecksBalance := by
        simp only [List.findSome?_isSome_iff, isSome_balanceRead?_iff]
      cases hfound : facts.guards.findSome? balanceRead? with
      | none => simpa [Except.map, hfacts, hfound, Evaluation.satisfied] using hread
      | some read => simpa [Except.map, hfacts, hfound, Evaluation.violated] using hread

/-- If other facts about one body have a guard for the rule on balances to object to wherever the
old facts have one, then with them the rule is violated wherever it was. -/
theorem evaluate_noBalanceGuard_violated {facts facts' : BodyFacts}
    (h : (∃ g ∈ facts.guards, g.ChecksBalance) → ∃ g ∈ facts'.guards, g.ChecksBalance)
    {c : FlatContract} {k : Selector} {t : FunctionTemplate}
    (hviolated : ((Requirement.noBalanceGuard t).evaluate (c.withFacts k facts)).map (·.outcome) =
      .ok .violated) :
    ((Requirement.noBalanceGuard t).evaluate (c.withFacts k facts')).map (·.outcome) =
      .ok .violated := by
  obtain ⟨f, known, hf, hknown, hguard⟩ := evaluateBalance_violated_iff.1 hviolated
  refine evaluateBalance_violated_iff.2 ?_
  simp only [FlatContract.withFacts, OrderedMap.find?_insert] at hknown ⊢
  by_cases hk : f.selector = k
  · rw [if_pos hk] at hknown
    obtain rfl := Option.some.inj hknown
    exact ⟨f, facts', hf, if_pos hk, h hguard⟩
  · rw [if_neg hk] at hknown
    exact ⟨f, known, hf, (if_neg hk).trans hknown, hguard⟩

/-! ### A contract with a function `approve` -/

namespace Allowance

open Solidity

/-- The names of the hierarchy: two state variables, a function and an event, with their numbers. -/
def names : Body.Scope where
  stateVariables := .ofList [(2, "_balances"), (3, "_allowances")]
  stateVariableNames := .ofList ["_balances", "_allowances"]
  functions := .ofList [(4, ⟨⟨"balanceOf", ["address"]⟩, .view⟩)]
  functionsNamed := .ofList [("balanceOf", [⟨⟨"balanceOf", ["address"]⟩, .view⟩])]
  events := .ofList [(5, ⟨"Approval", [⟨"address", true⟩, ⟨"address", true⟩, ⟨"uint256", false⟩]⟩)]
  eventsNamed :=
    .ofList [("Approval", ⟨"Approval", [⟨"address", true⟩, ⟨"address", true⟩, ⟨"uint256", false⟩]⟩)]

/-- The parameters `owner` and `value`. -/
def owner : Expression := .identifier "owner" (some 7)

@[inherit_doc owner]
def value : Expression := .identifier "value" (some 8)

/-- `require(amount >= value);`, with some amount. -/
def requireEnough (amount : Expression) : Statement :=
  .expression (.call (.identifier "require" (some (-18))) [.binary amount value])

/-- `_balances[owner]` -/
def balance : Expression := .index (.identifier "_balances" (some 2)) (some owner)

/-- `_allowances[owner] = value;` -/
def setAllowance : Statement :=
  .expression (.assign (.index (.identifier "_allowances" (some 3)) (some owner)) value)

/-- `emit Approval(owner, value);`, where the event has some number. -/
def emitApproval (number : NodeId) : Statement :=
  .emit (.call (.identifier "Approval" (some number)) [owner, value])

/-- The function. -/
def approve : FunctionShape :=
  ⟨"approve", [⟨"spender", "address"⟩, ⟨"value", "uint256"⟩], ["bool"], .publicAccess, .nonpayable,
    .ofList [], "Token"⟩

/-- The contract, where some facts are known of the function. -/
def contract (facts : BodyFacts) : FlatContract :=
  FlatContract.withFacts
    ⟨"Token", "contract", "Token.sol", [approve], [], [], .empty, []⟩ approve.selector facts

/-- What becomes of the rule on balances. -/
def outcome (facts : BodyFacts) : Except RuleFailure Outcome :=
  ((Requirement.noBalanceGuard Erc20.approve).evaluate (contract facts)).map (·.outcome)

end Allowance

end TokenConformance
