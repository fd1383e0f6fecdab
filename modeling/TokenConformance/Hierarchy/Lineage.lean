import TokenConformance.Collection.OrderedMap
import TokenConformance.Collection.OrderedSet
import TokenConformance.Failure
import TokenConformance.Hierarchy.Path
import TokenConformance.Solidity.Syntax

/-! # The contract under inspection and its bases

* `Located`: a contract with the path of its source file.
* `contracts`: all contracts of the source files.
* `target`: the contract with a name, the one in the inspected file before any other.
* `lineage`, `ancestry`, `missingBases`: the contract and its bases, the most derived one first.
* `members`: what all of them declare.
-/

namespace TokenConformance.Hierarchy

open Solidity

/-- A contract with the path of its source file. -/
structure Located where
  contract : ContractDefinition
  path : String
deriving Inhabited

/-- The contracts of a source file. -/
def contractsOf (u : SourceUnit) : List Located :=
  u.members.filterMap fun
    | .contract c => some ⟨c, u.path⟩
    | .other => none

/-- The contracts of all source files. -/
def contracts (units : List SourceUnit) : List Located := units.flatMap contractsOf

/-- The contract with a name. Of several, one in the inspected file comes first. -/
def target (units : List SourceUnit) (name sourcePath : String) : Except SourceFailure Located :=
  let candidates := (contracts units).filter fun c => c.contract.name = name
  match (candidates.find? fun c => pathsMatch c.path sourcePath).or candidates.head? with
  | some c => .ok c
  | none =>
    let names := OrderedSet.ofList ((contracts units).map (·.contract.name))
    .error (.contractNotFound name names.toList)

/-- The numbers of a contract and its bases. -/
def lineage (c : ContractDefinition) : List NodeId :=
  if c.linearizedBases = [] then [c.id] else c.linearizedBases

/-- The contracts by number. Of two with one number the later one counts. -/
def contractsById (units : List SourceUnit) : OrderedMap NodeId Located :=
  .ofList ((contracts units).map fun c => (c.contract.id, c))

/-- A contract and its bases, as far as the compiler output has them. -/
def ancestry (units : List SourceUnit) (c : ContractDefinition) : List Located :=
  (lineage c).filterMap (contractsById units).find?

/-- The bases that the compiler output does not have. -/
def missingBases (units : List SourceUnit) (c : ContractDefinition) : List NodeId :=
  (lineage c).filter fun id => ((contractsById units).find? id).isNone

/-- A member with the contract that declares it. -/
abbrev LocatedMember := Located × ContractMember

/-- What the contracts of a hierarchy declare, in the order of the contracts. -/
def members (hierarchy : List Located) : List LocatedMember :=
  hierarchy.flatMap fun c => c.contract.members.map (c, ·)

end TokenConformance.Hierarchy
