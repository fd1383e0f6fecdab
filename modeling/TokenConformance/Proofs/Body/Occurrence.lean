import Mathlib.Logic.Relation
import TokenConformance.Solidity.Syntax
import TokenConformance.Body.Traversal

/-! # What stands in a body

Occurrence is said by the parts of one expression or statement alone; the walks of
`Expression.nodes` and `Statement.nodes` reach exactly what occurs.

* `Expression.parts`, `Statement.parts`: what stands directly inside an expression or a statement.
* `Expression.Inside`, `Statement.Inside`: what stands inside at any depth.
* `Statement.Holds`: the expressions of one statement.
* `StatementOccurs`, `ExpressionOccurs`: what occurs in a list of statements.
* `mem_nodes_iff`, `mem_expressions_iff`: the walks leave nothing out and add nothing.
-/

namespace TokenConformance.Solidity

/-! ## Walks -/

/-- A walk that lists a tree and then what its parts list reaches exactly what stands inside. -/
theorem mem_walk_iff {α : Type} [SizeOf α] {parts nodes : α → List α}
    (hnodes : ∀ a, nodes a = a :: (parts a).flatMap nodes)
    (hparts : ∀ a, ∀ p ∈ parts a, sizeOf p < sizeOf a) {a x : α} :
    x ∈ nodes a ↔ Relation.ReflTransGen (fun a p => p ∈ parts a) a x := by
  constructor
  · intro h
    induction hn : sizeOf a using Nat.strongRecOn generalizing a with
    | _ n ih =>
      rw [hnodes, List.mem_cons, List.mem_flatMap] at h
      rcases h with rfl | ⟨p, hp, hx⟩
      · exact Relation.ReflTransGen.refl
      · exact Relation.ReflTransGen.head hp (ih _ (hn ▸ hparts a p hp) hx rfl)
  · intro h
    induction h using Relation.ReflTransGen.head_induction_on with
    | refl =>
      rw [hnodes]
      exact List.mem_cons_self
    | head hp _ ih =>
      rw [hnodes]
      exact List.mem_cons_of_mem _ (List.mem_flatMap.2 ⟨_, hp, ih⟩)

/-! ## Expressions -/

namespace Expression

/-- The expressions directly inside an expression. -/
def parts : Expression → List Expression
  | .identifier _ _ => []
  | .member object _ _ => [object]
  | .index base subscript => base :: subscript.toList
  | .call callee arguments => callee :: arguments
  | .withOptions callee => [callee]
  | .binary left right => [left, right]
  | .unary _ operand => [operand]
  | .assign target value => [target, value]
  | .conditional condition whenTrue whenFalse => [condition, whenTrue, whenFalse]
  | .tuple components => components.filterMap id
  | .other => []

/-- The second expression stands inside the first one, or is the first one. -/
def Inside : Expression → Expression → Prop := Relation.ReflTransGen fun e p => p ∈ e.parts

theorem nodesOfOption_eq (e : Option Expression) : nodesOfOption e = e.toList.flatMap nodes := by
  cases e <;> simp [nodesOfOption]

theorem nodesOfList_eq (es : List Expression) : nodesOfList es = es.flatMap nodes := by
  induction es with
  | nil => rfl
  | cons e rest ih => rw [nodesOfList, ih, List.flatMap_cons]

theorem nodesOfComponents_eq (es : List (Option Expression)) :
    nodesOfComponents es = (es.filterMap id).flatMap nodes := by
  induction es with
  | nil => rfl
  | cons e rest ih => cases e <;> simp [nodesOfComponents, nodesOfOption, ih]

theorem nodes_eq (e : Expression) : e.nodes = e :: e.parts.flatMap nodes := by
  cases e <;>
    simp [nodes, parts, nodesOfOption_eq, nodesOfList_eq, nodesOfComponents_eq]

theorem sizeOf_lt_of_mem_parts {e p : Expression} (h : p ∈ e.parts) : sizeOf p < sizeOf e := by
  cases e with
  | identifier name declaration => exact absurd h List.not_mem_nil
  | other => exact absurd h List.not_mem_nil
  | member object name declaration =>
    obtain rfl := List.mem_singleton.1 h
    rw [member.sizeOf_spec]; omega
  | withOptions callee =>
    obtain rfl := List.mem_singleton.1 h
    rw [withOptions.sizeOf_spec]; omega
  | unary operator operand =>
    obtain rfl := List.mem_singleton.1 h
    rw [unary.sizeOf_spec]; omega
  | index base subscript =>
    have h : p = base ∨ subscript = some p := by simpa [parts] using h
    rcases h with rfl | rfl
    · rw [index.sizeOf_spec]; omega
    · rw [index.sizeOf_spec, Option.some.sizeOf_spec]; omega
  | call callee arguments =>
    rw [call.sizeOf_spec]
    rcases List.mem_cons.1 h with rfl | h
    · omega
    · have := List.sizeOf_lt_of_mem h
      omega
  | tuple components =>
    have hmem : some p ∈ components := by simpa [parts] using h
    have hlt := List.sizeOf_lt_of_mem hmem
    rw [Option.some.sizeOf_spec] at hlt
    rw [tuple.sizeOf_spec]; omega
  | binary left right =>
    have h : p = left ∨ p = right := by simpa [parts] using h
    rw [binary.sizeOf_spec]
    rcases h with rfl | rfl <;> omega
  | assign target value =>
    have h : p = target ∨ p = value := by simpa [parts] using h
    rw [assign.sizeOf_spec]
    rcases h with rfl | rfl <;> omega
  | conditional condition whenTrue whenFalse =>
    have h : p = condition ∨ p = whenTrue ∨ p = whenFalse := by simpa [parts] using h
    rw [conditional.sizeOf_spec]
    rcases h with rfl | rfl | rfl <;> omega

/-- The walk through an expression reaches exactly what stands inside it. -/
theorem mem_nodes_iff {e x : Expression} : x ∈ e.nodes ↔ Inside e x :=
  mem_walk_iff nodes_eq fun _ _ => sizeOf_lt_of_mem_parts

end Expression

/-! ## Statements -/

namespace Statement

/-- The statements directly inside a statement. -/
def parts : Statement → List Statement
  | .block statements => statements
  | .unchecked statements => statements
  | .branch _ whenTrue whenFalse => whenTrue :: whenFalse.toList
  | .forLoop initial _ step body => initial.toList ++ step.toList ++ [body]
  | .whileLoop _ body => [body]
  | .doWhileLoop _ body => [body]
  | .expression _ | .declaration _ | .ret _ | .emit _ | .revert _ | .other => []

/-- The second statement stands inside the first one, or is the first one. -/
def Inside : Statement → Statement → Prop := Relation.ReflTransGen fun s p => p ∈ s.parts

/-- An expression stands in a statement and not in a statement inside it. What `emit` and `revert`
name is not among these expressions, but its arguments are. -/
inductive Holds : Statement → Expression → Prop
  | expression (e) : Holds (.expression e) e
  | branch (e whenTrue whenFalse) : Holds (.branch e whenTrue whenFalse) e
  | whileLoop (e body) : Holds (.whileLoop e body) e
  | doWhileLoop (e body) : Holds (.doWhileLoop e body) e
  | forLoop (initial e step body) : Holds (.forLoop initial (some e) step body) e
  | declaration (e) : Holds (.declaration (some e)) e
  | ret (e) : Holds (.ret (some e)) e
  | emit {callee arguments e} : e ∈ arguments → Holds (.emit (.call callee arguments)) e
  | revert {callee arguments e} : e ∈ arguments → Holds (.revert (.call callee arguments)) e

theorem nodesOfOption_eq (s : Option Statement) : nodesOfOption s = s.toList.flatMap nodes := by
  cases s <;> simp [nodesOfOption]

theorem nodesOfList_eq (ss : List Statement) : nodesOfList ss = ss.flatMap nodes := by
  induction ss with
  | nil => rfl
  | cons s rest ih => rw [nodesOfList, ih, List.flatMap_cons]

theorem nodes_eq (s : Statement) : s.nodes = s :: s.parts.flatMap nodes := by
  cases s <;> simp [nodes, parts, nodesOfOption_eq, nodesOfList_eq]

theorem sizeOf_lt_of_mem_parts {s p : Statement} (h : p ∈ s.parts) : sizeOf p < sizeOf s := by
  cases s with
  | block statements =>
    have := List.sizeOf_lt_of_mem (show p ∈ statements from h)
    rw [block.sizeOf_spec]; omega
  | unchecked statements =>
    have := List.sizeOf_lt_of_mem (show p ∈ statements from h)
    rw [unchecked.sizeOf_spec]; omega
  | branch condition whenTrue whenFalse =>
    have h : p = whenTrue ∨ whenFalse = some p := by simpa [parts] using h
    rcases h with rfl | rfl
    · rw [branch.sizeOf_spec]; omega
    · rw [branch.sizeOf_spec, Option.some.sizeOf_spec]; omega
  | forLoop initial condition step body =>
    have h : initial = some p ∨ step = some p ∨ p = body := by simpa [parts] using h
    rw [forLoop.sizeOf_spec]
    rcases h with rfl | rfl | rfl
    · rw [Option.some.sizeOf_spec]; omega
    · rw [Option.some.sizeOf_spec p]; omega
    · omega
  | whileLoop condition body =>
    obtain rfl := List.mem_singleton.1 h
    rw [whileLoop.sizeOf_spec]; omega
  | doWhileLoop condition body =>
    obtain rfl := List.mem_singleton.1 h
    rw [doWhileLoop.sizeOf_spec]; omega
  | expression | declaration | ret | emit | revert | other => exact absurd h List.not_mem_nil

/-- The walk through a statement reaches exactly the statements inside it. -/
theorem mem_nodes_iff {s x : Statement} : x ∈ s.nodes ↔ Inside s x :=
  mem_walk_iff nodes_eq fun _ _ => sizeOf_lt_of_mem_parts

theorem mem_roots_iff {s : Statement} {e : Expression} : e ∈ s.roots ↔ Holds s e := by
  constructor
  · intro h
    cases s with
    | emit event => cases event <;> simp_all [roots, Expression.arguments, Holds.emit]
    | revert error => cases error <;> simp_all [roots, Expression.arguments, Holds.revert]
    | expression e' => obtain rfl := List.mem_singleton.1 h; exact .expression _
    | branch condition whenTrue whenFalse =>
      obtain rfl := List.mem_singleton.1 h; exact .branch _ _ _
    | whileLoop condition body => obtain rfl := List.mem_singleton.1 h; exact .whileLoop _ _
    | doWhileLoop condition body => obtain rfl := List.mem_singleton.1 h; exact .doWhileLoop _ _
    | forLoop initial condition step body =>
      obtain rfl := Option.mem_toList.1 h; exact .forLoop _ _ _ _
    | declaration initial => obtain rfl := Option.mem_toList.1 h; exact .declaration _
    | ret value => obtain rfl := Option.mem_toList.1 h; exact .ret _
    | block statements => simp [roots] at h
    | unchecked statements => simp [roots] at h
    | other => simp [roots] at h
  · intro h
    cases h <;> simp_all [roots, Expression.arguments]

end Statement

/-! ## Bodies -/

/-- A statement occurs in a list of statements at any depth. -/
def StatementOccurs (body : List Statement) (s : Statement) : Prop :=
  ∃ top ∈ body, top.Inside s

/-- An expression occurs in a list of statements at any depth. -/
def ExpressionOccurs (body : List Statement) (e : Expression) : Prop :=
  ∃ s, StatementOccurs body s ∧ ∃ root, s.Holds root ∧ root.Inside e

theorem mem_nodes_iff {body : List Statement} {s : Statement} :
    s ∈ body.flatMap Statement.nodes ↔ StatementOccurs body s := by
  simp [StatementOccurs, List.mem_flatMap, Statement.mem_nodes_iff]

theorem mem_expressions_iff {body : List Statement} {e : Expression} :
    e ∈ body.flatMap Statement.expressions ↔ ExpressionOccurs body e := by
  have hflat : body.flatMap Statement.expressions =
      (body.flatMap Statement.nodes).flatMap fun s => s.roots.flatMap Expression.nodes := by
    rw [List.flatMap_assoc]
    rfl
  rw [hflat, List.mem_flatMap, ExpressionOccurs]
  refine exists_congr fun s => and_congr mem_nodes_iff ?_
  rw [List.mem_flatMap]
  exact exists_congr fun root => and_congr Statement.mem_roots_iff Expression.mem_nodes_iff

end TokenConformance.Solidity
