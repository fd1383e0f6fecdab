import TokenConformance.Proofs.Solidity.Place

/-! # Nodes as they are read

* `Node`: what a node of some sort is read as.
* `Node.At`: two nodes that differ at one place; everything else is the same in both.
* `SourceMember.readNode`, `IdentifierPath.read`: two readings that are steps of larger ones.
* `NodeSort.read`: reads a node of a sort.
-/

namespace TokenConformance.Solidity

/-- A node as it is read. -/
inductive Node where
  | unit (u : SourceUnit)
  | member (m : SourceMember)
  | contractMember (m : ContractMember)
  | parameters (l : ParameterList)
  | declaration (v : VariableDeclaration)
  | descriptions (d : TypeDescriptions)
  | typeName (t : TypeName)
  | invocation (m : ModifierInvocation)
  | path (name : String) (declaration : Option NodeId)
  | block (b : List Statement)
  | statement (s : Statement)
  | expression (e : Expression)

/-! ## Nodes that differ at one place -/

/-- Two nodes that are related at one place and the same everywhere else. The steps of the place are
those of the written tree. -/
inductive Node.At (R : Node → Node → Prop) : Place → Node → Node → Prop where
  | here {x y : Node} (h : R x y) : At R [] x y
  -- source files and contracts
  | unitMember {p : Place} {i : Nat} {path : String} {before after : List SourceMember}
    {m m' : SourceMember} (hi : before.length = i) (h : At R p (.member m) (.member m')) :
    At R (.item "nodes" i :: p) (.unit ⟨path, before ++ m :: after⟩)
      (.unit ⟨path, before ++ m' :: after⟩)
  | contractMember {p : Place} {i : Nat} {c : ContractDefinition}
    {before after : List ContractMember} {m m' : ContractMember}
    (hc : c.members = before ++ m :: after) (hi : before.length = i)
    (h : At R p (.contractMember m) (.contractMember m')) :
    At R (.item "nodes" i :: p) (.member (.contract c))
      (.member (.contract { c with members := before ++ m' :: after }))
  -- members of contracts
  | functionParameters {p : Place} {d : FunctionDefinition} {l l' : ParameterList}
    (hd : d.parameters = l) (h : At R p (.parameters l) (.parameters l')) :
    At R (.field "parameters" :: p) (.contractMember (.function d))
      (.contractMember (.function { d with parameters := l' }))
  | functionReturns {p : Place} {d : FunctionDefinition} {l l' : ParameterList}
    (hd : d.returns = l) (h : At R p (.parameters l) (.parameters l')) :
    At R (.field "returnParameters" :: p) (.contractMember (.function d))
      (.contractMember (.function { d with returns := l' }))
  | functionModifier {p : Place} {i : Nat} {d : FunctionDefinition}
    {before after : List ModifierInvocation} {m m' : ModifierInvocation}
    (hd : d.modifiers = before ++ m :: after) (hi : before.length = i)
    (h : At R p (.invocation m) (.invocation m')) :
    At R (.item "modifiers" i :: p) (.contractMember (.function d))
      (.contractMember (.function { d with modifiers := before ++ m' :: after }))
  | functionBody {p : Place} {d : FunctionDefinition} {b b' : List Statement}
    (hd : d.body = some b) (h : At R p (.block b) (.block b')) :
    At R (.field "body" :: p) (.contractMember (.function d))
      (.contractMember (.function { d with body := some b' }))
  | eventParameters {p : Place} {d : EventDefinition} {l l' : ParameterList}
    (hd : d.parameters = l) (h : At R p (.parameters l) (.parameters l')) :
    At R (.field "parameters" :: p) (.contractMember (.event d))
      (.contractMember (.event { d with parameters := l' }))
  | variable {s : Step} {p : Place} {v v' : VariableDeclaration}
    (h : At R (s :: p) (.declaration v) (.declaration v')) :
    At R (s :: p) (.contractMember (.variable v)) (.contractMember (.variable v'))
  | invocationPath {p : Place} {kind : Option String} {name name' : String}
    {d d' : Option NodeId} (h : At R p (.path name d) (.path name' d')) :
    At R (.field "modifierName" :: p) (.invocation ⟨name, d, kind⟩) (.invocation ⟨name', d', kind⟩)
  -- variables and types
  | parameter {p : Place} {i : Nat} {before after : ParameterList} {v v' : VariableDeclaration}
    (hi : before.length = i) (h : At R p (.declaration v) (.declaration v')) :
    At R (.item "parameters" i :: p) (.parameters (before ++ v :: after))
      (.parameters (before ++ v' :: after))
  | declarationDescriptions {p : Place} {v : VariableDeclaration} {d d' : TypeDescriptions}
    (hv : v.descriptions = d) (h : At R p (.descriptions d) (.descriptions d')) :
    At R (.field "typeDescriptions" :: p) (.declaration v)
      (.declaration { v with descriptions := d' })
  | declarationType {p : Place} {v : VariableDeclaration} {t t' : TypeName}
    (hv : v.typeName = some t) (h : At R p (.typeName t) (.typeName t')) :
    At R (.field "typeName" :: p) (.declaration v) (.declaration { v with typeName := some t' })
  | typeDescriptions {p : Place} {t : TypeName} {d d' : TypeDescriptions}
    (ht : t.descriptions = d) (h : At R p (.descriptions d) (.descriptions d')) :
    At R (.field "typeDescriptions" :: p) (.typeName t) (.typeName { t with descriptions := d' })
  | keyType {p : Place} {t k k' : TypeName} (ht : t.key = some k)
    (h : At R p (.typeName k) (.typeName k')) :
    At R (.field "keyType" :: p) (.typeName t) (.typeName { t with key := some k' })
  | valueType {p : Place} {t k k' : TypeName} (ht : t.value = some k)
    (h : At R p (.typeName k) (.typeName k')) :
    At R (.field "valueType" :: p) (.typeName t) (.typeName { t with value := some k' })
  | baseType {p : Place} {t k k' : TypeName} (ht : t.base = some k)
    (h : At R p (.typeName k) (.typeName k')) :
    At R (.field "baseType" :: p) (.typeName t) (.typeName { t with base := some k' })
  -- statements
  | bodyStatement {p : Place} {i : Nat} {before after : List Statement} {s s' : Statement}
    (hi : before.length = i) (h : At R p (.statement s) (.statement s')) :
    At R (.item "statements" i :: p) (.block (before ++ s :: after))
      (.block (before ++ s' :: after))
  | blockStatement {p : Place} {i : Nat} {before after : List Statement} {s s' : Statement}
    (hi : before.length = i) (h : At R p (.statement s) (.statement s')) :
    At R (.item "statements" i :: p) (.statement (.block (before ++ s :: after)))
      (.statement (.block (before ++ s' :: after)))
  | uncheckedStatement {p : Place} {i : Nat} {before after : List Statement} {s s' : Statement}
    (hi : before.length = i) (h : At R p (.statement s) (.statement s')) :
    At R (.item "statements" i :: p) (.statement (.unchecked (before ++ s :: after)))
      (.statement (.unchecked (before ++ s' :: after)))
  | statementExpression {p : Place} {e e' : Expression}
    (h : At R p (.expression e) (.expression e')) :
    At R (.field "expression" :: p) (.statement (.expression e)) (.statement (.expression e'))
  | branchCondition {p : Place} {e e' : Expression} {s : Statement} {r : Option Statement}
    (h : At R p (.expression e) (.expression e')) :
    At R (.field "condition" :: p) (.statement (.branch e s r)) (.statement (.branch e' s r))
  | branchTrue {p : Place} {e : Expression} {s s' : Statement} {r : Option Statement}
    (h : At R p (.statement s) (.statement s')) :
    At R (.field "trueBody" :: p) (.statement (.branch e s r)) (.statement (.branch e s' r))
  | branchFalse {p : Place} {e : Expression} {s r r' : Statement}
    (h : At R p (.statement r) (.statement r')) :
    At R (.field "falseBody" :: p) (.statement (.branch e s (some r)))
      (.statement (.branch e s (some r')))
  | declarationInitial {p : Place} {e e' : Expression}
    (h : At R p (.expression e) (.expression e')) :
    At R (.field "initialValue" :: p) (.statement (.declaration (some e)))
      (.statement (.declaration (some e')))
  | returnValue {p : Place} {e e' : Expression} (h : At R p (.expression e) (.expression e')) :
    At R (.field "expression" :: p) (.statement (.ret (some e))) (.statement (.ret (some e')))
  | emitEvent {p : Place} {e e' : Expression} (h : At R p (.expression e) (.expression e')) :
    At R (.field "eventCall" :: p) (.statement (.emit e)) (.statement (.emit e'))
  | revertError {p : Place} {e e' : Expression} (h : At R p (.expression e) (.expression e')) :
    At R (.field "errorCall" :: p) (.statement (.revert e)) (.statement (.revert e'))
  | forInitial {p : Place} {s s' body : Statement} {e : Option Expression} {step : Option Statement}
    (h : At R p (.statement s) (.statement s')) :
    At R (.field "initializationExpression" :: p) (.statement (.forLoop (some s) e step body))
      (.statement (.forLoop (some s') e step body))
  | forCondition {p : Place} {s step : Option Statement} {e e' : Expression} {body : Statement}
    (h : At R p (.expression e) (.expression e')) :
    At R (.field "condition" :: p) (.statement (.forLoop s (some e) step body))
      (.statement (.forLoop s (some e') step body))
  | forStep {p : Place} {s : Option Statement} {e : Option Expression} {step step' body : Statement}
    (h : At R p (.statement step) (.statement step')) :
    At R (.field "loopExpression" :: p) (.statement (.forLoop s e (some step) body))
      (.statement (.forLoop s e (some step') body))
  | forBody {p : Place} {s step : Option Statement} {e : Option Expression} {body body' : Statement}
    (h : At R p (.statement body) (.statement body')) :
    At R (.field "body" :: p) (.statement (.forLoop s e step body))
      (.statement (.forLoop s e step body'))
  | whileCondition {p : Place} {e e' : Expression} {body : Statement}
    (h : At R p (.expression e) (.expression e')) :
    At R (.field "condition" :: p) (.statement (.whileLoop e body))
      (.statement (.whileLoop e' body))
  | whileBody {p : Place} {e : Expression} {body body' : Statement}
    (h : At R p (.statement body) (.statement body')) :
    At R (.field "body" :: p) (.statement (.whileLoop e body)) (.statement (.whileLoop e body'))
  | doWhileCondition {p : Place} {e e' : Expression} {body : Statement}
    (h : At R p (.expression e) (.expression e')) :
    At R (.field "condition" :: p) (.statement (.doWhileLoop e body))
      (.statement (.doWhileLoop e' body))
  | doWhileBody {p : Place} {e : Expression} {body body' : Statement}
    (h : At R p (.statement body) (.statement body')) :
    At R (.field "body" :: p) (.statement (.doWhileLoop e body))
      (.statement (.doWhileLoop e body'))
  -- expressions
  | memberObject {p : Place} {e e' : Expression} {name : String} {declaration : Option NodeId}
    (h : At R p (.expression e) (.expression e')) :
    At R (.field "expression" :: p) (.expression (.member e name declaration))
      (.expression (.member e' name declaration))
  | indexBase {p : Place} {e e' : Expression} {subscript : Option Expression}
    (h : At R p (.expression e) (.expression e')) :
    At R (.field "baseExpression" :: p) (.expression (.index e subscript))
      (.expression (.index e' subscript))
  | indexSubscript {p : Place} {base e e' : Expression}
    (h : At R p (.expression e) (.expression e')) :
    At R (.field "indexExpression" :: p) (.expression (.index base (some e)))
      (.expression (.index base (some e')))
  | callCallee {p : Place} {e e' : Expression} {arguments : List Expression}
    (h : At R p (.expression e) (.expression e')) :
    At R (.field "expression" :: p) (.expression (.call e arguments))
      (.expression (.call e' arguments))
  | callArgument {p : Place} {i : Nat} {callee e e' : Expression} {before after : List Expression}
    (hi : before.length = i) (h : At R p (.expression e) (.expression e')) :
    At R (.item "arguments" i :: p) (.expression (.call callee (before ++ e :: after)))
      (.expression (.call callee (before ++ e' :: after)))
  | optionsCallee {p : Place} {e e' : Expression} (h : At R p (.expression e) (.expression e')) :
    At R (.field "expression" :: p) (.expression (.withOptions e)) (.expression (.withOptions e'))
  | binaryLeft {p : Place} {e e' right : Expression}
    (h : At R p (.expression e) (.expression e')) :
    At R (.field "leftExpression" :: p) (.expression (.binary e right))
      (.expression (.binary e' right))
  | binaryRight {p : Place} {left e e' : Expression}
    (h : At R p (.expression e) (.expression e')) :
    At R (.field "rightExpression" :: p) (.expression (.binary left e))
      (.expression (.binary left e'))
  | unaryOperand {p : Place} {operator : String} {e e' : Expression}
    (h : At R p (.expression e) (.expression e')) :
    At R (.field "subExpression" :: p) (.expression (.unary operator e))
      (.expression (.unary operator e'))
  | assignTarget {p : Place} {e e' value : Expression}
    (h : At R p (.expression e) (.expression e')) :
    At R (.field "leftHandSide" :: p) (.expression (.assign e value))
      (.expression (.assign e' value))
  | assignValue {p : Place} {target e e' : Expression}
    (h : At R p (.expression e) (.expression e')) :
    At R (.field "rightHandSide" :: p) (.expression (.assign target e))
      (.expression (.assign target e'))
  | conditionalCondition {p : Place} {e e' whenTrue whenFalse : Expression}
    (h : At R p (.expression e) (.expression e')) :
    At R (.field "condition" :: p) (.expression (.conditional e whenTrue whenFalse))
      (.expression (.conditional e' whenTrue whenFalse))
  | conditionalTrue {p : Place} {condition e e' whenFalse : Expression}
    (h : At R p (.expression e) (.expression e')) :
    At R (.field "trueExpression" :: p) (.expression (.conditional condition e whenFalse))
      (.expression (.conditional condition e' whenFalse))
  | conditionalFalse {p : Place} {condition whenTrue e e' : Expression}
    (h : At R p (.expression e) (.expression e')) :
    At R (.field "falseExpression" :: p) (.expression (.conditional condition whenTrue e))
      (.expression (.conditional condition whenTrue e'))
  | tupleComponent {p : Place} {i : Nat} {before after : List (Option Expression)}
    {e e' : Expression} (hi : before.length = i) (h : At R p (.expression e) (.expression e')) :
    At R (.item "components" i :: p) (.expression (.tuple (before ++ some e :: after)))
      (.expression (.tuple (before ++ some e' :: after)))

/-- A type has parts that are types, so this does not hold by definition. -/
theorem TypeName.mk_eta (t : TypeName) :
    (⟨t.nodeType, t.descriptions, t.key, t.value, t.base⟩ : TypeName) = t := by
  cases t
  rfl

/-- Nodes that are the same also at the place are the same. -/
theorem Node.At.eq {p : Place} {x y : Node} (h : Node.At Eq p x y) : x = y := by
  induction h with
  | here h => exact h
  | contractMember hc _ _ ih => cases ih; rw [← hc]
  | functionParameters hd _ ih => cases ih; rw [← hd]
  | functionReturns hd _ ih => cases ih; rw [← hd]
  | functionModifier hd _ _ ih => cases ih; rw [← hd]
  | functionBody hd _ ih => cases ih; rw [← hd]
  | eventParameters hd _ ih => cases ih; rw [← hd]
  | declarationDescriptions hv _ ih => cases ih; rw [← hv]
  | declarationType hv _ ih => cases ih; rw [← hv]
  | typeDescriptions ht _ ih => cases ih; rw [← ht, TypeName.mk_eta]
  | keyType ht _ ih => cases ih; rw [← ht, TypeName.mk_eta]
  | valueType ht _ ih => cases ih; rw [← ht, TypeName.mk_eta]
  | baseType ht _ ih => cases ih; rw [← ht, TypeName.mk_eta]
  | _ => simp_all

/-! ## Readings -/

/-- Reads a member of a source file, without regard to literals and brackets in it. -/
def SourceMember.readNode (n : Nat) (j : Json) : Option SourceMember := do
  let (kind, j) ← j.tagged? Json.text?
  match kind with
  | "ContractDefinition" => return .contract (← ContractDefinition.read n j)
  | _ => if j.ignorable then some .other else none

theorem SourceMember.read_eq (j : Json) :
    SourceMember.read j = if j.isReadable ∧ j.depth ≤ memberNesting then
      SourceMember.readNode memberNesting j else none := rfl

/-- Reads a path with what it refers to. -/
def IdentifierPath.read (j : Json) : Option (String × Option NodeId) := do
  let r ← j.record? ["name", "referencedDeclaration"]
  return (← r.required "name" Json.text?, ← r.optional "referencedDeclaration" Json.int64?)

/-- The path of a modifier invocation is read as a node of its own. -/
theorem ModifierInvocation.read_eq (j : Json) :
    ModifierInvocation.read j =
      (j.record? ["modifierName", "kind"]).bind fun r =>
        (r.required "modifierName" IdentifierPath.read).bind fun path =>
          (r.optional "kind" Json.text?).bind fun kind => some ⟨path.1, path.2, kind⟩ := by
  simp only [ModifierInvocation.read, IdentifierPath.read, Record.required, Option.bind_eq_bind,
    Option.pure_def, Option.bind_assoc, Option.bind_some]

/-- Reads a node of a sort with at most the given number of nested nodes. -/
def NodeSort.read : NodeSort → Nat → Json → Option Node
  | unit, _, j => (SourceUnit.read j).map .unit
  | member, n, j => (SourceMember.readNode n j).map .member
  | contractMember, n, j => (ContractMember.read n j).map .contractMember
  | parameters, n, j => (ParameterList.read n j).map .parameters
  | declaration, n, j => (VariableDeclaration.read n j).map .declaration
  | descriptions, _, j => (TypeDescriptions.read j).map .descriptions
  | typeName, n, j => (TypeName.read n j).map .typeName
  | invocation, _, j => (ModifierInvocation.read j).map .invocation
  | path, _, j => (IdentifierPath.read j).map fun path => .path path.1 path.2
  | block, n, j => (Statement.readBlock n j).map .block
  | statement, n, j => (Statement.read n j).map .statement
  | expression, n, j => (Expression.read n j).map .expression

end TokenConformance.Solidity
