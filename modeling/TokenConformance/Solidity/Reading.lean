import TokenConformance.Json.Record
import TokenConformance.Solidity.Syntax

/-! # Reading syntax trees

Every node is a record; statements, expressions and members carry their kind, inside a contract by
its name or by its number. A kind that is not known gives `other`. Recursion is bounded by an
allowance of nested nodes.

* `Expression.read`, `Statement.read`, `Statement.readBlock`: bodies.
* `TypeName.read`, `VariableDeclaration.read`, `FunctionDefinition.read`, …: declarations.
* `SourceMember.read`: a member of a source file, of which every literal must denote a value and
  brackets may be nested up to `memberNesting`.
* `SourceUnit.read`: a source file.
-/

namespace TokenConformance.Solidity

/-- How deep brackets may be nested in a member of a source file: of the 127 that may stand inside
one another in compiler output, five are outside of it. -/
def memberNesting : Nat := 122

/-! ## Bodies -/

namespace Expression

/-- The kinds that are known, in the order of their numbers. -/
def kinds : List String :=
  ["Identifier", "MemberAccess", "IndexAccess", "FunctionCall", "FunctionCallOptions",
    "BinaryOperation", "UnaryOperation", "Assignment", "Conditional", "TupleExpression"]

/-- Reads an expression with at most the given number of nested nodes. -/
def read : Nat → Json → Option Expression
  | 0, _ => none
  | n + 1, j => do
    let (kind, j) ← j.tagged? (Json.kindAmong? kinds)
    match kind with
    | "Identifier" =>
      let r ← j.record? ["name", "referencedDeclaration"]
      return .identifier (← r.required "name" Json.text?)
        (← r.optional "referencedDeclaration" Json.int64?)
    | "MemberAccess" =>
      let r ← j.record? ["memberName", "expression", "referencedDeclaration"]
      return .member (← r.required "expression" (read n)) (← r.required "memberName" Json.text?)
        (← r.optional "referencedDeclaration" Json.int64?)
    | "IndexAccess" =>
      let r ← j.record? ["baseExpression", "indexExpression"]
      return .index (← r.required "baseExpression" (read n))
        (← r.optional "indexExpression" (read n))
    | "FunctionCall" =>
      let r ← j.record? ["expression", "arguments"]
      return .call (← r.required "expression" (read n))
        (← r.withDefault "arguments" [] (Json.listOf? (read n)))
    | "FunctionCallOptions" =>
      let r ← j.record? ["expression"]
      return .withOptions (← r.required "expression" (read n))
    | "BinaryOperation" =>
      let r ← j.record? ["leftExpression", "rightExpression"]
      return .binary (← r.required "leftExpression" (read n))
        (← r.required "rightExpression" (read n))
    | "UnaryOperation" =>
      let r ← j.record? ["operator", "subExpression"]
      return .unary (← r.required "operator" Json.text?) (← r.required "subExpression" (read n))
    | "Assignment" =>
      let r ← j.record? ["leftHandSide", "rightHandSide"]
      return .assign (← r.required "leftHandSide" (read n)) (← r.required "rightHandSide" (read n))
    | "Conditional" =>
      let r ← j.record? ["condition", "trueExpression", "falseExpression"]
      return .conditional (← r.required "condition" (read n))
        (← r.required "trueExpression" (read n)) (← r.required "falseExpression" (read n))
    | "TupleExpression" =>
      let r ← j.record? ["components"]
      return .tuple (← r.withDefault "components" [] (Json.listOf? (Json.nullable? (read n))))
    | _ => if j.ignorable then some .other else none

end Expression

namespace Statement

/-- The kinds that are known, in the order of their numbers. -/
def kinds : List String :=
  ["Block", "UncheckedBlock", "ExpressionStatement", "IfStatement", "VariableDeclarationStatement",
    "Return", "EmitStatement", "RevertStatement", "ForStatement", "WhileStatement",
    "DoWhileStatement"]

/-- Reads a statement with at most the given number of nested nodes. -/
def read : Nat → Json → Option Statement
  | 0, _ => none
  | n + 1, j => do
    let (kind, j) ← j.tagged? (Json.kindAmong? kinds)
    match kind with
    | "Block" =>
      let r ← j.record? ["statements"]
      return .block (← r.withDefault "statements" [] (Json.listOf? (read n)))
    | "UncheckedBlock" =>
      let r ← j.record? ["statements"]
      return .unchecked (← r.withDefault "statements" [] (Json.listOf? (read n)))
    | "ExpressionStatement" =>
      let r ← j.record? ["expression"]
      return .expression (← r.required "expression" (Expression.read n))
    | "IfStatement" =>
      let r ← j.record? ["condition", "trueBody", "falseBody"]
      return .branch (← r.required "condition" (Expression.read n))
        (← r.required "trueBody" (read n)) (← r.optional "falseBody" (read n))
    | "VariableDeclarationStatement" =>
      let r ← j.record? ["initialValue"]
      return .declaration (← r.optional "initialValue" (Expression.read n))
    | "Return" =>
      let r ← j.record? ["expression"]
      return .ret (← r.optional "expression" (Expression.read n))
    | "EmitStatement" =>
      let r ← j.record? ["eventCall"]
      return .emit (← r.required "eventCall" (Expression.read n))
    | "RevertStatement" =>
      let r ← j.record? ["errorCall"]
      return .revert (← r.required "errorCall" (Expression.read n))
    | "ForStatement" =>
      let r ← j.record? ["initializationExpression", "condition", "loopExpression", "body"]
      return .forLoop (← r.optional "initializationExpression" (read n))
        (← r.optional "condition" (Expression.read n)) (← r.optional "loopExpression" (read n))
        (← r.required "body" (read n))
    | "WhileStatement" =>
      let r ← j.record? ["condition", "body"]
      return .whileLoop (← r.required "condition" (Expression.read n))
        (← r.required "body" (read n))
    | "DoWhileStatement" =>
      let r ← j.record? ["condition", "body"]
      return .doWhileLoop (← r.required "condition" (Expression.read n))
        (← r.required "body" (read n))
    | _ => if j.ignorable then some .other else none

/-- Reads the statements of a function body. -/
def readBlock (n : Nat) (j : Json) : Option (List Statement) := do
  let r ← j.record? ["statements"]
  r.withDefault "statements" [] (Json.listOf? (read n))

end Statement

/-! ## Types and variables -/

/-- Reads what the compiler says about a type. -/
def TypeDescriptions.read (j : Json) : Option TypeDescriptions := do
  let r ← j.record? ["typeString"]
  return { typeString := ← r.optional "typeString" Json.text? }

/-- Reads a type with at most the given number of nested nodes. -/
def TypeName.read : Nat → Json → Option TypeName
  | 0, _ => none
  | n + 1, j => do
    let r ← j.record? ["nodeType", "typeDescriptions", "keyType", "valueType", "baseType"]
    return {
      nodeType := ← r.withDefault "nodeType" "" Json.text?
      descriptions := ← r.withDefault "typeDescriptions" {} TypeDescriptions.read
      key := ← r.optional "keyType" (read n)
      value := ← r.optional "valueType" (read n)
      base := ← r.optional "baseType" (read n) }

/-- Reads a state variable or a parameter. -/
def VariableDeclaration.read (n : Nat) (j : Json) : Option VariableDeclaration := do
  let r ← j.record?
    ["id", "name", "typeDescriptions", "typeName", "stateVariable", "visibility", "indexed",
      "constant"]
  return {
    id := ← r.withDefault "id" 0 Json.int64?
    name := ← r.withDefault "name" "" Json.text?
    descriptions := ← r.withDefault "typeDescriptions" {} TypeDescriptions.read
    typeName := ← r.optional "typeName" (TypeName.read n)
    stateVariable := ← r.withDefault "stateVariable" false Json.bool?
    visibility := ← r.withDefault "visibility" "" Json.text?
    indexed := ← r.withDefault "indexed" false Json.bool?
    constant := ← r.withDefault "constant" false Json.bool? }

/-- Reads a list of parameters. -/
def ParameterList.read (n : Nat) (j : Json) : Option ParameterList := do
  let r ← j.record? ["parameters"]
  r.withDefault "parameters" [] (Json.listOf? (VariableDeclaration.read n))

/-! ## Members of contracts -/

/-- Reads a modifier invocation. The path and the reference form a record of their own. -/
def ModifierInvocation.read (j : Json) : Option ModifierInvocation := do
  let r ← j.record? ["modifierName", "kind"]
  let name ← r.required "modifierName" (Json.record? ["name", "referencedDeclaration"])
  return {
    path := ← name.required "name" Json.text?
    declaration := ← name.optional "referencedDeclaration" Json.int64?
    kind := ← r.optional "kind" Json.text? }

/-- Reads a function. -/
def FunctionDefinition.read (n : Nat) (j : Json) : Option FunctionDefinition := do
  let r ← j.record?
    ["id", "name", "kind", "visibility", "stateMutability", "parameters", "returnParameters",
      "modifiers", "body"]
  return {
    id := ← r.withDefault "id" 0 Json.int64?
    name := ← r.withDefault "name" "" Json.text?
    kind := ← r.withDefault "kind" "function" Json.text?
    visibility := ← r.required "visibility" Json.text?
    mutability := ← r.required "stateMutability" Json.text?
    parameters := ← r.withDefault "parameters" [] (ParameterList.read n)
    returns := ← r.withDefault "returnParameters" [] (ParameterList.read n)
    modifiers := ← r.withDefault "modifiers" [] (Json.listOf? ModifierInvocation.read)
    body := ← r.optional "body" (Statement.readBlock n) }

/-- Reads an event. -/
def EventDefinition.read (n : Nat) (j : Json) : Option EventDefinition := do
  let r ← j.record? ["id", "name", "parameters"]
  return {
    id := ← r.withDefault "id" 0 Json.int64?
    name := ← r.required "name" Json.text?
    parameters := ← r.withDefault "parameters" [] (ParameterList.read n) }

/-- Reads a modifier. -/
def ModifierDefinition.read (j : Json) : Option ModifierDefinition := do
  let r ← j.record? ["id", "name"]
  return {
    id := ← r.withDefault "id" 0 Json.int64?
    name := ← r.required "name" Json.text? }

/-- The kinds of members that are known, in the order of their numbers. -/
def ContractMember.kinds : List String :=
  ["FunctionDefinition", "EventDefinition", "ModifierDefinition", "VariableDeclaration"]

/-- Reads a member of a contract. -/
def ContractMember.read (n : Nat) (j : Json) : Option ContractMember := do
  let (kind, j) ← j.tagged? (Json.kindAmong? kinds)
  match kind with
  | "FunctionDefinition" => return .function (← FunctionDefinition.read n j)
  | "EventDefinition" => return .event (← EventDefinition.read n j)
  | "ModifierDefinition" => return .modifier (← ModifierDefinition.read j)
  | "VariableDeclaration" => return .variable (← VariableDeclaration.read n j)
  | _ => if j.ignorable then some .other else none

/-! ## Source files -/

/-- Reads a contract. -/
def ContractDefinition.read (n : Nat) (j : Json) : Option ContractDefinition := do
  let r ← j.record?
    ["id", "name", "contractKind", "abstract", "linearizedBaseContracts", "nodes"]
  return {
    id := ← r.required "id" Json.int64?
    name := ← r.required "name" Json.text?
    kind := ← r.withDefault "contractKind" "contract" Json.text?
    isAbstract := ← r.withDefault "abstract" false Json.bool?
    linearizedBases := ← r.withDefault "linearizedBaseContracts" [] (Json.listOf? Json.int64?)
    members := ← r.withDefault "nodes" [] (Json.listOf? (ContractMember.read n)) }

/-- Reads a member of a source file. -/
def SourceMember.read (j : Json) : Option SourceMember := do
  if j.isReadable ∧ j.depth ≤ memberNesting then
    let (kind, j) ← j.tagged? Json.text?
    match kind with
    | "ContractDefinition" => return .contract (← ContractDefinition.read memberNesting j)
    | _ => if j.ignorable then some .other else none
  else none

/-- Reads a source file. -/
def SourceUnit.read (j : Json) : Option SourceUnit := do
  let r ← j.record? ["absolutePath", "nodes"]
  return {
    path := ← r.withDefault "absolutePath" "" Json.text?
    members := ← r.withDefault "nodes" [] (Json.listOf? SourceMember.read) }

end TokenConformance.Solidity
