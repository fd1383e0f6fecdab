import TokenConformance.Standard.Rule

/-! # The rules of ERC20

* `ruleSet`: the rule set.
-/

namespace TokenConformance.Erc20

/-- The function `transfer`. -/
def transfer : FunctionTemplate := .callable "transfer" ["address", "uint256"] ["bool"]

/-- The function `approve`. -/
def approve : FunctionTemplate := .callable "approve" ["address", "uint256"] ["bool"]

/-- The function `transferFrom`. -/
def transferFrom : FunctionTemplate :=
  .callable "transferFrom" ["address", "address", "uint256"] ["bool"]

/-- The function `allowance`. -/
def allowance : FunctionTemplate := .callable "allowance" ["address", "address"] ["uint256"]

/-- The function `balanceOf`. -/
def balanceOf : FunctionTemplate := .callable "balanceOf" ["address"] ["uint256"]

/-- The function `increaseAllowance`. -/
def increaseAllowance : FunctionTemplate :=
  .callable "increaseAllowance" ["address", "uint256"] ["bool"]

/-- The function `decreaseAllowance`. -/
def decreaseAllowance : FunctionTemplate :=
  .callable "decreaseAllowance" ["address", "uint256"] ["bool"]

/-- The functions to which no modifier of one's own may be applied. -/
def core : List FunctionTemplate := [transfer, approve, transferFrom, allowance, balanceOf]

/-- The event `Transfer`. -/
def transferEvent : EventTemplate := ⟨"Transfer", ["address", "address", "uint256"], none⟩

/-- The event `Approval`. -/
def approvalEvent : EventTemplate := ⟨"Approval", ["address", "address", "uint256"], none⟩

/-- The rules. -/
def ruleSet : RuleSet :=
  [⟨"ERC20 functions", true,
    [⟨"ERC20-FN-01", .function transfer⟩,
      ⟨"ERC20-FN-02", .function approve⟩,
      ⟨"ERC20-FN-03", .function transferFrom⟩,
      ⟨"ERC20-FN-04", .function allowance⟩,
      ⟨"ERC20-FN-05", .function balanceOf⟩]⟩,
    ⟨"Custom modifiers", true,
      [⟨"ERC20-MOD-01", .noCustomModifiers core⟩]⟩,
    ⟨"ERC20 events", true,
      [⟨"ERC20-EV-01", .event transferEvent⟩,
        ⟨"ERC20-EV-02", .event approvalEvent⟩]⟩,
    ⟨"Event emission", true,
      [⟨"ERC20-EMIT-01", .emitsEvent transfer transferEvent⟩,
        ⟨"ERC20-EMIT-02", .emitsEvent transferFrom transferEvent⟩,
        ⟨"ERC20-EMIT-03", .emitsEvent approve approvalEvent⟩]⟩,
    ⟨"ERC20 getters", false,
      [⟨"ERC20-GET-01", .function (.callable "totalSupply" [] ["uint256"])⟩,
        ⟨"ERC20-GET-02", .function (.callable "decimals" [] ["uint8"])⟩,
        ⟨"ERC20-GET-03", .function (.callable "symbol" [] ["string"])⟩,
        ⟨"ERC20-GET-04", .function (.callable "name" [] ["string"])⟩]⟩,
    ⟨"Frontrunning mitigation", true,
      [⟨"ERC20-FR-01", .function increaseAllowance⟩,
        ⟨"ERC20-FR-02", .function decreaseAllowance⟩]⟩,
    ⟨"Approve safety", true,
      [⟨"ERC20-APP-01", .noBalanceGuard approve⟩]⟩]

end TokenConformance.Erc20
