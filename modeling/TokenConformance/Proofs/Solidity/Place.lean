import TokenConformance.Proofs.Json.FieldChange
import TokenConformance.Solidity.Reading

/-! # Places in written syntax trees

A written tree is made of nodes. What a node is read as depends on where it stands; this is its
sort. Nodes of some sorts carry a kind, and the kind decides which fields are declared and which of
them hold further nodes.

* `NodeSort`, `Content`: what may stand in a tree, and what in a field.
* `NodeSort.kinds?`, `NodeSort.slots`: the kinds of a sort, and the declared fields of a kind.
* `Place`: the fields and list elements on the way from a node down to another one.
* `Edited`: a node, and the same with an edit at a place in it.
* `isReadable_of_edited`: literals outside the place are what they have been.
-/

namespace TokenConformance.Solidity

/-! ## Sorts and their fields -/

/-- What a node is read as. -/
inductive NodeSort where
  | unit
  | member
  | contractMember
  | parameters
  | declaration
  | descriptions
  | typeName
  | invocation
  | path
  | block
  | statement
  | expression
deriving DecidableEq

/-- What a declared field holds: a plain value, a node or a list of nodes. -/
inductive Content where
  | data
  | node (s : NodeSort)
  | nodes (s : NodeSort)
deriving DecidableEq

namespace NodeSort

/-- The kinds that are known of a sort, if its nodes carry a kind. -/
def kinds? : NodeSort → Option (List String)
  | member => some ["ContractDefinition"]
  | contractMember => some ContractMember.kinds
  | statement => some Statement.kinds
  | expression => some Expression.kinds
  | _ => none

/-- The declared fields of a member of a source file. -/
def memberSlots : String → List (String × Content)
  | "ContractDefinition" =>
    [("id", .data), ("name", .data), ("contractKind", .data), ("abstract", .data),
      ("linearizedBaseContracts", .data), ("nodes", .nodes contractMember)]
  | _ => []

/-- The declared fields of a state variable or a parameter. -/
def declarationSlots : List (String × Content) :=
  [("id", .data), ("name", .data), ("typeDescriptions", .node descriptions),
    ("typeName", .node typeName), ("stateVariable", .data), ("visibility", .data),
    ("indexed", .data), ("constant", .data)]

/-- The declared fields of a member of a contract. -/
def contractMemberSlots : String → List (String × Content)
  | "FunctionDefinition" =>
    [("id", .data), ("name", .data), ("kind", .data), ("visibility", .data),
      ("stateMutability", .data), ("parameters", .node parameters),
      ("returnParameters", .node parameters), ("modifiers", .nodes invocation),
      ("body", .node block)]
  | "EventDefinition" => [("id", .data), ("name", .data), ("parameters", .node parameters)]
  | "ModifierDefinition" => [("id", .data), ("name", .data)]
  | "VariableDeclaration" => declarationSlots
  | _ => []

/-- The declared fields of a statement. -/
def statementSlots : String → List (String × Content)
  | "Block" => [("statements", .nodes statement)]
  | "UncheckedBlock" => [("statements", .nodes statement)]
  | "ExpressionStatement" => [("expression", .node expression)]
  | "IfStatement" =>
    [("condition", .node expression), ("trueBody", .node statement),
      ("falseBody", .node statement)]
  | "VariableDeclarationStatement" => [("initialValue", .node expression)]
  | "Return" => [("expression", .node expression)]
  | "EmitStatement" => [("eventCall", .node expression)]
  | "RevertStatement" => [("errorCall", .node expression)]
  | "ForStatement" =>
    [("initializationExpression", .node statement), ("condition", .node expression),
      ("loopExpression", .node statement), ("body", .node statement)]
  | "WhileStatement" => [("condition", .node expression), ("body", .node statement)]
  | "DoWhileStatement" => [("condition", .node expression), ("body", .node statement)]
  | _ => []

/-- The declared fields of an expression. -/
def expressionSlots : String → List (String × Content)
  | "Identifier" => [("name", .data), ("referencedDeclaration", .data)]
  | "MemberAccess" =>
    [("memberName", .data), ("expression", .node expression), ("referencedDeclaration", .data)]
  | "IndexAccess" => [("baseExpression", .node expression), ("indexExpression", .node expression)]
  | "FunctionCall" => [("expression", .node expression), ("arguments", .nodes expression)]
  | "FunctionCallOptions" => [("expression", .node expression)]
  | "BinaryOperation" =>
    [("leftExpression", .node expression), ("rightExpression", .node expression)]
  | "UnaryOperation" => [("operator", .data), ("subExpression", .node expression)]
  | "Assignment" => [("leftHandSide", .node expression), ("rightHandSide", .node expression)]
  | "Conditional" =>
    [("condition", .node expression), ("trueExpression", .node expression),
      ("falseExpression", .node expression)]
  | "TupleExpression" => [("components", .nodes expression)]
  | _ => []

/-- The declared fields of a node, for the sorts with kinds by its kind. -/
def slots : NodeSort → String → List (String × Content)
  | unit, _ => [("absolutePath", .data), ("nodes", .nodes member)]
  | member, kind => memberSlots kind
  | contractMember, kind => contractMemberSlots kind
  | parameters, _ => [("parameters", .nodes declaration)]
  | declaration, _ => declarationSlots
  | descriptions, _ => [("typeString", .data)]
  | typeName, _ =>
    [("nodeType", .data), ("typeDescriptions", .node descriptions), ("keyType", .node typeName),
      ("valueType", .node typeName), ("baseType", .node typeName)]
  | invocation, _ => [("modifierName", .node path), ("kind", .data)]
  | path, _ => [("name", .data), ("referencedDeclaration", .data)]
  | block, _ => [("statements", .nodes statement)]
  | statement, kind => statementSlots kind
  | expression, kind => expressionSlots kind

/-- The names of the declared fields. -/
def names (s : NodeSort) (kind : String) : List String := (s.slots kind).map (·.1)

/-- The kind of a node and the node without it. Nodes of a sort without kinds are taken whole. -/
def tagged? : NodeSort → Json → Option (String × Json)
  | member, j => j.tagged? Json.text?
  | contractMember, j => j.tagged? (Json.kindAmong? ContractMember.kinds)
  | statement, j => j.tagged? (Json.kindAmong? Statement.kinds)
  | expression, j => j.tagged? (Json.kindAmong? Expression.kinds)
  | _, j => some ("", j)

/-- The fields of a node in the order of an array that stands for it, the kind first. -/
def columns (s : NodeSort) (kind : String) : List String :=
  if s.kinds?.isSome then "nodeType" :: s.names kind else s.names kind

end NodeSort

/-! ## Places -/

/-- A step from a node to one of its parts: a field, or an element of a list in a field. -/
inductive Step where
  | field (name : String)
  | item (name : String) (index : Nat)
deriving DecidableEq

/-- The way from a node down to another one. -/
abbrev Place := List Step

open Json (FieldReplaced)

/-- A node of a sort, and the same with an edit at a place in it. -/
inductive Edited (edit : NodeSort → Json → Json → Prop) :
    NodeSort → Place → Json → Json → Prop where
  | here {s : NodeSort} {j j' : Json} (h : edit s j j') : Edited edit s [] j j'
  | field {s t : NodeSort} {kind name : String} {rest v v' j j' : Json} {p : Place}
    (hkind : s.tagged? j = some (kind, rest)) (hslot : (name, .node t) ∈ s.slots kind)
    (hfield : FieldReplaced (s.columns kind) name v v' j j') (h : Edited edit t p v v') :
    Edited edit s (.field name :: p) j j'
  | item {s t : NodeSort} {kind name : String} {rest v v' j j' : Json} {p : Place}
    (before after : List Json)
    (hkind : s.tagged? j = some (kind, rest)) (hslot : (name, .nodes t) ∈ s.slots kind)
    (hfield : FieldReplaced (s.columns kind) name (.array (before ++ v :: after))
      (.array (before ++ v' :: after)) j j')
    (h : Edited edit t p v v') : Edited edit s (.item name before.length :: p) j j'

/-! ## Facts about the declared fields -/

namespace NodeSort

/-- Fields can be told apart; and a field with nodes in it is not the kind, nor holds whole source
files. -/
def SlotsApart (slots : List (String × Content)) : Prop :=
  (slots.map (·.1)).Nodup ∧ ∀ f ∈ slots, f.2 = .data ∨
    f.1 ≠ "nodeType" ∧ f.2 ≠ .node unit ∧ f.2 ≠ .nodes unit

instance (slots : List (String × Content)) : Decidable (SlotsApart slots) :=
  inferInstanceAs (Decidable (_ ∧ _))

theorem memberSlots_apart (kind : String) : SlotsApart (memberSlots kind) := by
  unfold memberSlots
  split <;> decide

theorem contractMemberSlots_apart (kind : String) : SlotsApart (contractMemberSlots kind) := by
  unfold contractMemberSlots
  split <;> decide

theorem statementSlots_apart (kind : String) : SlotsApart (statementSlots kind) := by
  unfold statementSlots
  split <;> decide

theorem expressionSlots_apart (kind : String) : SlotsApart (expressionSlots kind) := by
  unfold expressionSlots
  split <;> decide

theorem slots_apart (s : NodeSort) (kind : String) : SlotsApart (s.slots kind) := by
  -- without kinds, the fields are the same whatever stands for the kind
  have hplain : ∀ s : NodeSort, s.kinds? = none → SlotsApart (s.slots "") := by
    rintro (_ | _) <;> decide
  cases s with
  | member => exact memberSlots_apart kind
  | contractMember => exact contractMemberSlots_apart kind
  | statement => exact statementSlots_apart kind
  | expression => exact expressionSlots_apart kind
  | unit => exact hplain unit rfl
  | parameters => exact hplain parameters rfl
  | declaration => exact hplain declaration rfl
  | descriptions => exact hplain descriptions rfl
  | typeName => exact hplain typeName rfl
  | invocation => exact hplain invocation rfl
  | path => exact hplain path rfl
  | block => exact hplain block rfl

variable {s t : NodeSort} {kind name : String} {c : Content}

theorem name_ne_nodeType (hslot : (name, c) ∈ s.slots kind) (hc : c ≠ .data) :
    name ≠ "nodeType" :=
  (((s.slots_apart kind).2 _ hslot).resolve_left hc).1

theorem ne_unit_of_node (hslot : (name, .node t) ∈ s.slots kind) : t ≠ unit := by
  rintro rfl
  simpa using (s.slots_apart kind).2 _ hslot

theorem ne_unit_of_nodes (hslot : (name, .nodes t) ∈ s.slots kind) : t ≠ unit := by
  rintro rfl
  simpa using (s.slots_apart kind).2 _ hslot

theorem mem_names (hslot : (name, c) ∈ s.slots kind) : name ∈ s.names kind :=
  List.mem_map_of_mem hslot

/-- A node of a sort without kinds, with another value in a declared field. -/
theorem record?_of_replaced (hs : s.kinds? = none) {v v' j j' : Json}
    (hslot : (name, c) ∈ s.slots kind) (h : FieldReplaced (s.columns kind) name v v' j j') :
    Carries (Record.Replaced name v v') (j.record? (s.names kind))
      (j'.record? (s.names kind)) := by
  rw [columns, hs, if_neg (by decide)] at h
  exact Json.record?_of_replaced (s.slots_apart kind).1 (mem_names hslot) h

/-- A node with another value in a declared field has the same kind, and a record that differs in
this field. -/
theorem exists_tagged?_of_replaced {rest v v' j j' : Json}
    (hkind : s.tagged? j = some (kind, rest)) (hslot : (name, c) ∈ s.slots kind)
    (hc : c ≠ .data) (h : FieldReplaced (s.columns kind) name v v' j j') :
    ∃ rest', s.tagged? j' = some (kind, rest') ∧
      Carries (Record.Replaced name v v') (rest.record? (s.names kind))
        (rest'.record? (s.names kind)) := by
  have hrecord : ∀ {k k' : Json}, FieldReplaced (s.names kind) name v v' k k' →
      Carries (Record.Replaced name v v') (k.record? (s.names kind))
        (k'.record? (s.names kind)) :=
    Json.record?_of_replaced (s.slots_apart kind).1 (mem_names hslot)
  have htagged : ∀ {kind? : Json → Option String},
      j.tagged? kind? = some (kind, rest) → s.kinds?.isSome = true →
      ∃ rest', j'.tagged? kind? = some (kind, rest') ∧
        Carries (Record.Replaced name v v') (rest.record? (s.names kind))
          (rest'.record? (s.names kind)) := by
    intro kind? hkind hs
    rw [columns, if_pos hs] at h
    obtain ⟨rest', hkind', hrest⟩ :=
      Json.tagged?_of_replaced (name_ne_nodeType hslot hc) h hkind
    exact ⟨rest', hkind', hrecord hrest⟩
  cases s with
  | member | contractMember | statement | expression => exact htagged hkind rfl
  | _ =>
    obtain ⟨rfl, rfl⟩ := Prod.mk.inj (Option.some.inj hkind)
    exact ⟨j', rfl, hrecord h⟩

end NodeSort

/-- Literals outside the place of an edit are what they have been. -/
theorem isReadable_of_edited {edit : NodeSort → Json → Json → Prop}
    (hedit : ∀ s j j', s ≠ .unit → edit s j j' → j.isReadable = true → j'.isReadable = true)
    {s : NodeSort} {p : Place} {j j' : Json} (h : Edited edit s p j j') (hs : s ≠ .unit)
    (hj : j.isReadable = true) : j'.isReadable = true := by
  induction h with
  | here h => exact hedit _ _ _ hs h hj
  | field _ hslot hfield _ ih =>
    exact Json.isReadable_of_replaced hfield (ih (NodeSort.ne_unit_of_node hslot)) hj
  | item before after _ hslot hfield _ ih =>
    refine Json.isReadable_of_replaced hfield (fun hitems => ?_) hj
    simp only [Json.isReadable, Json.allReadable_append, Json.allReadable,
      Bool.and_eq_true] at hitems ⊢
    exact ⟨hitems.1, ih (NodeSort.ne_unit_of_nodes hslot) hitems.2.1, hitems.2.2⟩

/-- An edit is never to or from a missing value. -/
theorem ne_null_of_edited {edit : NodeSort → Json → Json → Prop}
    (hedit : ∀ s j j', edit s j j' → j ≠ .null ∧ j' ≠ .null)
    {s : NodeSort} {p : Place} {j j' : Json} (h : Edited edit s p j j') :
    j ≠ .null ∧ j' ≠ .null := by
  cases h with
  | here h => exact hedit _ _ _ h
  | field _ _ hfield _ => cases hfield <;> exact ⟨nofun, nofun⟩
  | item _ _ _ _ hfield _ => cases hfield <;> exact ⟨nofun, nofun⟩

end TokenConformance.Solidity
