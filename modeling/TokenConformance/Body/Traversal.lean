import TokenConformance.Solidity.Syntax

/-! # Walking through bodies

* `Expression.nodes`: an expression with everything inside it, outer before inner.
* `Statement.nodes`: a statement with every statement inside it, outer before inner. The start and
  the step of a `for` come before its body.
* `Statement.roots`: the expressions of one statement. The event of an `emit` and the error of a
  `revert` are not among them, but their arguments are.
* `Statement.expressions`: every expression at any depth of a statement.
-/

namespace TokenConformance.Solidity

namespace Expression

mutual

/-- An expression with everything inside it, outer before inner and left before right. -/
def nodes : Expression → List Expression
  | e@(.identifier _ _) => [e]
  | e@(.member object _ _) => e :: object.nodes
  | e@(.index base subscript) => e :: (base.nodes ++ nodesOfOption subscript)
  | e@(.call callee arguments) => e :: (callee.nodes ++ nodesOfList arguments)
  | e@(.withOptions callee) => e :: callee.nodes
  | e@(.binary left right) => e :: (left.nodes ++ right.nodes)
  | e@(.unary _ operand) => e :: operand.nodes
  | e@(.assign target value) => e :: (target.nodes ++ value.nodes)
  | e@(.conditional condition whenTrue whenFalse) =>
    e :: (condition.nodes ++ whenTrue.nodes ++ whenFalse.nodes)
  | e@(.tuple components) => e :: nodesOfComponents components
  | .other => [.other]

/-- The nodes of an expression that may be missing. -/
def nodesOfOption : Option Expression → List Expression
  | none => []
  | some e => e.nodes

/-- The nodes of several expressions. -/
def nodesOfList : List Expression → List Expression
  | [] => []
  | e :: rest => e.nodes ++ nodesOfList rest

/-- The nodes of the components of a tuple. -/
def nodesOfComponents : List (Option Expression) → List Expression
  | [] => []
  | e :: rest => nodesOfOption e ++ nodesOfComponents rest

end

/-- The arguments of a call. -/
def arguments : Expression → List Expression
  | .call _ arguments => arguments
  | _ => []

end Expression

namespace Statement

mutual

/-- A statement with every statement inside it, outer before inner. -/
def nodes : Statement → List Statement
  | s@(.block statements) => s :: nodesOfList statements
  | s@(.unchecked statements) => s :: nodesOfList statements
  | s@(.branch _ whenTrue whenFalse) => s :: (whenTrue.nodes ++ nodesOfOption whenFalse)
  | s@(.forLoop initial _ step body) =>
    s :: (nodesOfOption initial ++ nodesOfOption step ++ body.nodes)
  | s@(.whileLoop _ body) => s :: body.nodes
  | s@(.doWhileLoop _ body) => s :: body.nodes
  | s@(.expression _) => [s]
  | s@(.declaration _) => [s]
  | s@(.ret _) => [s]
  | s@(.emit _) => [s]
  | s@(.revert _) => [s]
  | .other => [.other]

/-- The nodes of a statement that may be missing. -/
def nodesOfOption : Option Statement → List Statement
  | none => []
  | some s => s.nodes

/-- The nodes of several statements. -/
def nodesOfList : List Statement → List Statement
  | [] => []
  | s :: rest => s.nodes ++ nodesOfList rest

end

/-- The expressions of one statement, without those of statements inside it. -/
def roots : Statement → List Expression
  | .expression e => [e]
  | .branch condition _ _ => [condition]
  | .whileLoop condition _ => [condition]
  | .doWhileLoop condition _ => [condition]
  | .forLoop _ condition _ _ => condition.toList
  | .declaration initial => initial.toList
  | .ret value => value.toList
  | .emit event => event.arguments
  | .revert error => error.arguments
  | .block _ | .unchecked _ | .other => []

/-- Every expression at any depth of a statement. -/
def expressions (s : Statement) : List Expression :=
  s.nodes.flatMap fun t => t.roots.flatMap Expression.nodes

end Statement

end TokenConformance.Solidity
