import TokenConformance.Standard.Rule

/-! # The rules of ERC721

Events are told apart from those of ERC20 by their indexed parameters.

* `ruleSet`: the rule set.
-/

namespace TokenConformance.Erc721

/-- The function `balanceOf`. -/
def balanceOf : FunctionTemplate := .callable "balanceOf" ["address"] ["uint256"]

/-- The function `ownerOf`. -/
def ownerOf : FunctionTemplate := .callable "ownerOf" ["uint256"] ["address"]

/-- The function `safeTransferFrom` with data. -/
def safeTransferFromWithData : FunctionTemplate :=
  .callable "safeTransferFrom" ["address", "address", "uint256", "bytes"] []

/-- The function `safeTransferFrom` without data. -/
def safeTransferFrom : FunctionTemplate :=
  .callable "safeTransferFrom" ["address", "address", "uint256"] []

/-- The function `transferFrom`. -/
def transferFrom : FunctionTemplate :=
  .callable "transferFrom" ["address", "address", "uint256"] []

/-- The function `approve`. -/
def approve : FunctionTemplate := .callable "approve" ["address", "uint256"] []

/-- The function `setApprovalForAll`. -/
def setApprovalForAll : FunctionTemplate := .callable "setApprovalForAll" ["address", "bool"] []

/-- The function `getApproved`. -/
def getApproved : FunctionTemplate := .callable "getApproved" ["uint256"] ["address"]

/-- The function `isApprovedForAll`. -/
def isApprovedForAll : FunctionTemplate :=
  .callable "isApprovedForAll" ["address", "address"] ["bool"]

/-- The functions to which no modifier of one's own may be applied. -/
def core : List FunctionTemplate :=
  [balanceOf, ownerOf, safeTransferFromWithData, safeTransferFrom, transferFrom, approve,
    setApprovalForAll, getApproved, isApprovedForAll]

/-- The event `Transfer`. -/
def transferEvent : EventTemplate :=
  ⟨"Transfer", ["address", "address", "uint256"], some [true, true, true]⟩

/-- The event `Approval`. -/
def approvalEvent : EventTemplate :=
  ⟨"Approval", ["address", "address", "uint256"], some [true, true, true]⟩

/-- The event `ApprovalForAll`. -/
def approvalForAllEvent : EventTemplate :=
  ⟨"ApprovalForAll", ["address", "address", "bool"], some [true, true, false]⟩

/-- The rules. -/
def ruleSet : RuleSet :=
  [⟨"ERC721 functions", true,
    [⟨"ERC721-FN-01", .function balanceOf⟩,
      ⟨"ERC721-FN-02", .function ownerOf⟩,
      ⟨"ERC721-FN-03", .function safeTransferFromWithData⟩,
      ⟨"ERC721-FN-04", .function safeTransferFrom⟩,
      ⟨"ERC721-FN-05", .function transferFrom⟩,
      ⟨"ERC721-FN-06", .function approve⟩,
      ⟨"ERC721-FN-07", .function setApprovalForAll⟩,
      ⟨"ERC721-FN-08", .function getApproved⟩,
      ⟨"ERC721-FN-09", .function isApprovedForAll⟩]⟩,
    ⟨"Custom modifiers", true,
      [⟨"ERC721-MOD-01", .noCustomModifiers core⟩]⟩,
    ⟨"ERC721 events", true,
      [⟨"ERC721-EV-01", .event transferEvent⟩,
        ⟨"ERC721-EV-02", .event approvalEvent⟩,
        ⟨"ERC721-EV-03", .event approvalForAllEvent⟩]⟩,
    ⟨"Event emission", true,
      [⟨"ERC721-EMIT-01", .emitsEvent transferFrom transferEvent⟩,
        ⟨"ERC721-EMIT-02", .emitsEvent safeTransferFromWithData transferEvent⟩,
        ⟨"ERC721-EMIT-03", .emitsEvent safeTransferFrom transferEvent⟩,
        ⟨"ERC721-EMIT-04", .emitsEvent approve approvalEvent⟩,
        ⟨"ERC721-EMIT-05", .emitsEvent setApprovalForAll approvalForAllEvent⟩]⟩,
    ⟨"ERC721 getters", false,
      [⟨"ERC721-GET-01", .function (.callable "name" [] ["string"])⟩,
        ⟨"ERC721-GET-02", .function (.callable "symbol" [] ["string"])⟩,
        ⟨"ERC721-GET-03", .function (.callable "tokenURI" ["uint256"] ["string"])⟩]⟩,
    ⟨"ERC165", true,
      [⟨"ERC721-165-01", .function (.callable "supportsInterface" ["bytes4"] ["bool"])⟩]⟩]

end TokenConformance.Erc721
