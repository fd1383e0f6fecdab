import Mathlib.Tactic.CasesM
import TokenConformance.Proofs.Solidity.Node

/-! # An edit of the written tree is an edit of the tree

What a node is read as depends on its kind and on its declared fields alone, and on every field in
the same way as on the node or the nodes that stand in it. So an edit at a place of the written tree
shows at this place and nowhere else.

* `PartReplaced`: one part of a field is read as something related, the others are what they are.
* `expression_step`, `statement_step`, …: an edit in a part, for every kind of node.
* `ReadsAs`: an edit that is read as a change of one node, where it is made.
* `carries_of_edited`, `carries_unit_of_edited`: such an edit at any place.
-/

namespace TokenConformance

/-! ## Fields that are read one after the other -/

namespace Record.Replaced

variable {name : String} {v v' : Json} {r r' : Record} {α γ : Type} {read : Json → Option α}
  {Q : α → α → Prop} {P : γ → γ → Prop} {f g : α → Option γ}

theorem required_bind (h : Replaced name v v' r r') (hread : Carries Q (read v) (read v'))
    (hfg : ∀ a b, Q a b → Carries P (f a) (g b)) :
    Carries P ((r.required name read).bind f) ((r'.required name read).bind g) :=
  (h.required hread).bind hfg

theorem withDefault_bind (h : Replaced name v v' r r') {d : α}
    (hread : Carries Q (read v) (read v')) (hfg : ∀ a b, Q a b → Carries P (f a) (g b)) :
    Carries P ((r.withDefault name d read).bind f) ((r'.withDefault name d read).bind g) :=
  (h.withDefault hread).bind hfg

theorem optional_bind {f g : Option α → Option γ} (h : Replaced name v v' r r') (hv : v ≠ .null)
    (hv' : v' ≠ .null) (hread : Carries Q (read v) (read v'))
    (hfg : ∀ a b, Q a b → Carries P (f (some a)) (g (some b))) :
    Carries P ((r.optional name read).bind f) ((r'.optional name read).bind g) := by
  refine (h.optional hread hv hv').bind ?_
  rintro _ _ ⟨a, b, rfl, rfl, hab⟩
  exact hfg a b hab

/-- A list in which one element is replaced. -/
theorem items_bind {before after : List Json} {f g : List α → Option γ} {d : List α}
    (h : Replaced name (.array (before ++ v :: after)) (.array (before ++ v' :: after)) r r')
    (hread : Carries Q (read v) (read v'))
    (hfg : ∀ bs a b cs, bs.length = before.length → Q a b →
      Carries P (f (bs ++ a :: cs)) (g (bs ++ b :: cs))) :
    Carries P ((r.withDefault name d (Json.listOf? read)).bind f)
      ((r'.withDefault name d (Json.listOf? read)).bind g) := by
  refine h.withDefault_bind (Json.carries_mapM hread before after) ?_
  rintro _ _ ⟨bs, a, b, cs, hlen, hab, rfl, rfl⟩
  exact hfg bs a b cs hlen hab

end Record.Replaced

namespace Solidity

open Json (FieldReplaced)

variable {R : Node → Node → Prop} {n : Nat} {p : Place} {step : Step} {w w' j j' rest : Json}
  {kind name : String} {c : Content}

theorem carries_nullable? {α : Type} {read : Json → Option α} {Q : α → α → Prop}
    (hw : w ≠ .null) (hw' : w' ≠ .null) (h : Carries Q (read w) (read w')) :
    Carries (fun x y => ∃ a b, x = some a ∧ y = some b ∧ Q a b) (w.nullable? read)
      (w'.nullable? read) := by
  rw [Json.nullable?_of_ne hw, Json.nullable?_of_ne hw', Carries.map_iff]
  exact h.mono fun a b hab => ⟨a, b, rfl, rfl, hab⟩

/-- A field with another value: the node that it holds, or one of the nodes, is read as a node that
is related at the place. -/
inductive PartReplaced (R : Node → Node → Prop) (p : Place) (name : String) :
    Content → Step → Json → Json → Prop where
  | node {t : NodeSort} {v v' : Json} (hv : v ≠ .null) (hv' : v' ≠ .null)
    (h : ∀ n, Carries (Node.At R p) (t.read n v) (t.read n v')) :
    PartReplaced R p name (.node t) (.field name) v v'
  | nodes {t : NodeSort} {v v' : Json} (before after : List Json) (hv : v ≠ .null)
    (hv' : v' ≠ .null) (h : ∀ n, Carries (Node.At R p) (t.read n v) (t.read n v')) :
    PartReplaced R p name (.nodes t) (.item name before.length) (.array (before ++ v :: after))
      (.array (before ++ v' :: after))

theorem expression_step (hkind : NodeSort.expression.tagged? j = some (kind, rest))
    (hslot : (name, c) ∈ NodeSort.expression.slots kind)
    (hfield : FieldReplaced (NodeSort.expression.columns kind) name w w' j j')
    (hpart : PartReplaced R p name c step w w') :
    Carries (Node.At R (step :: p)) (NodeSort.expression.read n j)
      (NodeSort.expression.read n j') := by
  have hc : c ≠ .data := by cases hpart <;> nofun
  obtain ⟨rest', hkind', hrecord⟩ :=
    NodeSort.exists_tagged?_of_replaced hkind hslot hc hfield
  rw [NodeSort.read, NodeSort.read, Carries.map_iff]
  cases n with
  | zero => exact .none
  | succ n =>
    have hk : j.tagged? (Json.kindAmong? Expression.kinds) = some (kind, rest) := hkind
    have hk' : j'.tagged? (Json.kindAmong? Expression.kinds) = some (kind, rest') := hkind'
    rw [Expression.read, Expression.read, hk, hk']
    clear hfield hk hk' hkind hkind'
    simp only [NodeSort.slots, NodeSort.expressionSlots] at hslot
    split at hslot <;>
      simp only [List.mem_cons, List.not_mem_nil, Prod.mk.injEq, or_false, false_or, hc,
        and_false] at hslot
    all_goals try casesm* _ ∨ _
    all_goals
      obtain ⟨rfl, rfl⟩ := ‹_ ∧ _›
      cases hpart
      rename_i hv hv' h
      have hread := Carries.map_iff.1 (h n)
      refine hrecord.bind fun r r' hr => ?_
      try simp (disch := decide) only [hr.required_of_ne, hr.optional_of_ne, hr.withDefault_of_ne]
    · exact hr.required_bind hread fun _ _ he =>
        .bind_same fun _ => .bind_same fun _ => .some (.memberObject he)
    · exact hr.required_bind hread fun _ _ he => .bind_same fun _ => .some (.indexBase he)
    · exact .bind_same fun _ =>
        hr.optional_bind hv hv' hread fun _ _ he => .some (.indexSubscript he)
    · exact hr.required_bind hread fun _ _ he => .bind_same fun _ => .some (.callCallee he)
    · exact .bind_same fun _ => hr.items_bind hread fun _ _ _ _ hlen he =>
        .some (.callArgument hlen he)
    · exact hr.required_bind hread fun _ _ he => .some (.optionsCallee he)
    · exact hr.required_bind hread fun _ _ he => .bind_same fun _ => .some (.binaryLeft he)
    · exact .bind_same fun _ => hr.required_bind hread fun _ _ he => .some (.binaryRight he)
    · exact .bind_same fun _ => hr.required_bind hread fun _ _ he => .some (.unaryOperand he)
    · exact hr.required_bind hread fun _ _ he => .bind_same fun _ => .some (.assignTarget he)
    · exact .bind_same fun _ => hr.required_bind hread fun _ _ he => .some (.assignValue he)
    · exact hr.required_bind hread fun _ _ he =>
        .bind_same fun _ => .bind_same fun _ => .some (.conditionalCondition he)
    · exact .bind_same fun _ => hr.required_bind hread fun _ _ he =>
        .bind_same fun _ => .some (.conditionalTrue he)
    · exact .bind_same fun _ => .bind_same fun _ => hr.required_bind hread fun _ _ he =>
        .some (.conditionalFalse he)
    · refine hr.items_bind (carries_nullable? hv hv' hread) ?_
      rintro bs _ _ cs hlen ⟨e, e', rfl, rfl, he⟩
      exact .some (.tupleComponent hlen he)

theorem statement_step (hkind : NodeSort.statement.tagged? j = some (kind, rest))
    (hslot : (name, c) ∈ NodeSort.statement.slots kind)
    (hfield : FieldReplaced (NodeSort.statement.columns kind) name w w' j j')
    (hpart : PartReplaced R p name c step w w') :
    Carries (Node.At R (step :: p)) (NodeSort.statement.read n j)
      (NodeSort.statement.read n j') := by
  have hc : c ≠ .data := by cases hpart <;> nofun
  obtain ⟨rest', hkind', hrecord⟩ :=
    NodeSort.exists_tagged?_of_replaced hkind hslot hc hfield
  rw [NodeSort.read, NodeSort.read, Carries.map_iff]
  cases n with
  | zero => exact .none
  | succ n =>
    have hk : j.tagged? (Json.kindAmong? Statement.kinds) = some (kind, rest) := hkind
    have hk' : j'.tagged? (Json.kindAmong? Statement.kinds) = some (kind, rest') := hkind'
    rw [Statement.read, Statement.read, hk, hk']
    clear hfield hk hk' hkind hkind'
    simp only [NodeSort.slots, NodeSort.statementSlots] at hslot
    split at hslot <;>
      simp only [List.mem_cons, List.not_mem_nil, Prod.mk.injEq, or_false] at hslot
    all_goals try casesm* _ ∨ _
    all_goals
      obtain ⟨rfl, rfl⟩ := ‹_ ∧ _›
      cases hpart
      rename_i hv hv' h
      have hread := Carries.map_iff.1 (h n)
      refine hrecord.bind fun r r' hr => ?_
      try simp (disch := decide) only [hr.required_of_ne, hr.optional_of_ne]
    · exact hr.items_bind hread fun _ _ _ _ hlen hs => .some (.blockStatement hlen hs)
    · exact hr.items_bind hread fun _ _ _ _ hlen hs => .some (.uncheckedStatement hlen hs)
    · exact hr.required_bind hread fun _ _ he => .some (.statementExpression he)
    · exact hr.required_bind hread fun _ _ he =>
        .bind_same fun _ => .bind_same fun _ => .some (.branchCondition he)
    · exact .bind_same fun _ => hr.required_bind hread fun _ _ hs =>
        .bind_same fun _ => .some (.branchTrue hs)
    · exact .bind_same fun _ => .bind_same fun _ =>
        hr.optional_bind hv hv' hread fun _ _ hs => .some (.branchFalse hs)
    · exact hr.optional_bind hv hv' hread fun _ _ he => .some (.declarationInitial he)
    · exact hr.optional_bind hv hv' hread fun _ _ he => .some (.returnValue he)
    · exact hr.required_bind hread fun _ _ he => .some (.emitEvent he)
    · exact hr.required_bind hread fun _ _ he => .some (.revertError he)
    · exact hr.optional_bind hv hv' hread fun _ _ hs =>
        .bind_same fun _ => .bind_same fun _ => .bind_same fun _ => .some (.forInitial hs)
    · exact .bind_same fun _ => hr.optional_bind hv hv' hread fun _ _ he =>
        .bind_same fun _ => .bind_same fun _ => .some (.forCondition he)
    · exact .bind_same fun _ => .bind_same fun _ => hr.optional_bind hv hv' hread fun _ _ hs =>
        .bind_same fun _ => .some (.forStep hs)
    · exact .bind_same fun _ => .bind_same fun _ => .bind_same fun _ =>
        hr.required_bind hread fun _ _ hs => .some (.forBody hs)
    · exact hr.required_bind hread fun _ _ he => .bind_same fun _ => .some (.whileCondition he)
    · exact .bind_same fun _ => hr.required_bind hread fun _ _ hs => .some (.whileBody hs)
    · exact hr.required_bind hread fun _ _ he => .bind_same fun _ => .some (.doWhileCondition he)
    · exact .bind_same fun _ => hr.required_bind hread fun _ _ hs => .some (.doWhileBody hs)

theorem block_step (hslot : (name, c) ∈ NodeSort.block.slots kind)
    (hfield : FieldReplaced (NodeSort.block.columns kind) name w w' j j')
    (hpart : PartReplaced R p name c step w w') :
    Carries (Node.At R (step :: p)) (NodeSort.block.read n j) (NodeSort.block.read n j') := by
  have hrecord := NodeSort.record?_of_replaced rfl hslot hfield
  rw [NodeSort.read, NodeSort.read, Carries.map_iff, Statement.readBlock, Statement.readBlock]
  simp only [NodeSort.slots, List.mem_cons, List.not_mem_nil, Prod.mk.injEq, or_false] at hslot
  obtain ⟨rfl, rfl⟩ := hslot
  cases hpart with
  | nodes before after hv hv' h =>
    refine hrecord.bind fun r r' hr => ?_
    refine (hr.withDefault (Json.carries_mapM (Carries.map_iff.1 (h n)) before after)).mono ?_
    rintro _ _ ⟨bs, s, s', cs, hlen, hs, rfl, rfl⟩
    exact .bodyStatement hlen hs

theorem typeName_step (hslot : (name, c) ∈ NodeSort.typeName.slots kind)
    (hfield : FieldReplaced (NodeSort.typeName.columns kind) name w w' j j')
    (hpart : PartReplaced R p name c step w w') :
    Carries (Node.At R (step :: p)) (NodeSort.typeName.read n j)
      (NodeSort.typeName.read n j') := by
  have hrecord := NodeSort.record?_of_replaced rfl hslot hfield
  rw [NodeSort.read, NodeSort.read, Carries.map_iff]
  cases n with
  | zero => exact .none
  | succ n =>
    rw [TypeName.read, TypeName.read]
    have hc : c ≠ .data := by cases hpart <;> nofun
    simp only [NodeSort.slots, List.mem_cons, List.not_mem_nil, Prod.mk.injEq, or_false, hc,
      and_false, false_or] at hslot
    casesm* _ ∨ _
    all_goals
      obtain ⟨rfl, rfl⟩ := ‹_ ∧ _›
      cases hpart
      rename_i hv hv' h
      have hread := Carries.map_iff.1 (h n)
      refine hrecord.bind fun r r' hr => ?_
      simp (disch := decide) only [hr.withDefault_of_ne, hr.optional_of_ne]
    · exact .bind_same fun _ => hr.withDefault_bind hread fun _ _ hd =>
        .bind_same fun _ => .bind_same fun _ => .bind_same fun _ => .some (.typeDescriptions rfl hd)
    · exact .bind_same fun _ => .bind_same fun _ => hr.optional_bind hv hv' hread fun _ _ ht =>
        .bind_same fun _ => .bind_same fun _ => .some (.keyType rfl ht)
    · exact .bind_same fun _ => .bind_same fun _ => .bind_same fun _ =>
        hr.optional_bind hv hv' hread fun _ _ ht => .bind_same fun _ => .some (.valueType rfl ht)
    · exact .bind_same fun _ => .bind_same fun _ => .bind_same fun _ => .bind_same fun _ =>
        hr.optional_bind hv hv' hread fun _ _ ht => .some (.baseType rfl ht)

theorem declaration_step (hslot : (name, c) ∈ NodeSort.declaration.slots kind)
    (hrecord : Carries (Record.Replaced name w w') (j.record? (NodeSort.declaration.names kind))
      (j'.record? (NodeSort.declaration.names kind)))
    (hpart : PartReplaced R p name c step w w') :
    Carries (Node.At R (step :: p)) (NodeSort.declaration.read n j)
      (NodeSort.declaration.read n j') := by
  rw [NodeSort.read, NodeSort.read, Carries.map_iff, VariableDeclaration.read,
    VariableDeclaration.read]
  have hc : c ≠ .data := by cases hpart <;> nofun
  simp only [NodeSort.slots, NodeSort.declarationSlots, List.mem_cons, List.not_mem_nil,
    Prod.mk.injEq, or_false, hc, and_false, false_or] at hslot
  casesm* _ ∨ _
  all_goals
    obtain ⟨rfl, rfl⟩ := ‹_ ∧ _›
    cases hpart
    rename_i hv hv' h
    have hread := Carries.map_iff.1 (h n)
    refine hrecord.bind fun r r' hr => ?_
    simp (disch := decide) only [hr.withDefault_of_ne, hr.optional_of_ne]
    refine .bind_same fun _ => .bind_same fun _ => ?_
  · exact hr.withDefault_bind hread fun _ _ hd => .bind_same fun _ => .bind_same fun _ =>
      .bind_same fun _ => .bind_same fun _ => .bind_same fun _ =>
        .some (.declarationDescriptions rfl hd)
  · exact .bind_same fun _ => hr.optional_bind hv hv' hread fun _ _ ht => .bind_same fun _ =>
      .bind_same fun _ => .bind_same fun _ => .bind_same fun _ => .some (.declarationType rfl ht)

theorem parameters_step (hslot : (name, c) ∈ NodeSort.parameters.slots kind)
    (hfield : FieldReplaced (NodeSort.parameters.columns kind) name w w' j j')
    (hpart : PartReplaced R p name c step w w') :
    Carries (Node.At R (step :: p)) (NodeSort.parameters.read n j)
      (NodeSort.parameters.read n j') := by
  have hrecord := NodeSort.record?_of_replaced rfl hslot hfield
  rw [NodeSort.read, NodeSort.read, Carries.map_iff, ParameterList.read, ParameterList.read]
  simp only [NodeSort.slots, List.mem_cons, List.not_mem_nil, Prod.mk.injEq, or_false] at hslot
  obtain ⟨rfl, rfl⟩ := hslot
  cases hpart with
  | nodes before after hv hv' h =>
    refine hrecord.bind fun r r' hr => ?_
    refine (hr.withDefault (Json.carries_mapM (Carries.map_iff.1 (h n)) before after)).mono ?_
    rintro _ _ ⟨bs, v, v', cs, hlen, hv, rfl, rfl⟩
    exact .parameter hlen hv

theorem invocation_step (hslot : (name, c) ∈ NodeSort.invocation.slots kind)
    (hfield : FieldReplaced (NodeSort.invocation.columns kind) name w w' j j')
    (hpart : PartReplaced R p name c step w w') :
    Carries (Node.At R (step :: p)) (NodeSort.invocation.read n j)
      (NodeSort.invocation.read n j') := by
  have hrecord := NodeSort.record?_of_replaced rfl hslot hfield
  rw [NodeSort.read, NodeSort.read, Carries.map_iff, ModifierInvocation.read_eq,
    ModifierInvocation.read_eq]
  have hc : c ≠ .data := by cases hpart <;> nofun
  simp only [NodeSort.slots, List.mem_cons, List.not_mem_nil, Prod.mk.injEq, or_false, hc,
    and_false] at hslot
  obtain ⟨rfl, rfl⟩ := hslot
  cases hpart with
  | node hv hv' h =>
    refine hrecord.bind fun r r' hr => ?_
    simp (disch := decide) only [hr.optional_of_ne]
    exact hr.required_bind (Carries.map_iff.1 (h n)) fun _ _ hpath =>
      .bind_same fun _ => .some (.invocationPath hpath)

theorem contractMember_step (hkind : NodeSort.contractMember.tagged? j = some (kind, rest))
    (hslot : (name, c) ∈ NodeSort.contractMember.slots kind)
    (hfield : FieldReplaced (NodeSort.contractMember.columns kind) name w w' j j')
    (hpart : PartReplaced R p name c step w w') :
    Carries (Node.At R (step :: p)) (NodeSort.contractMember.read n j)
      (NodeSort.contractMember.read n j') := by
  have hc : c ≠ .data := by cases hpart <;> nofun
  obtain ⟨rest', hkind', hrecord⟩ :=
    NodeSort.exists_tagged?_of_replaced hkind hslot hc hfield
  rw [NodeSort.read, NodeSort.read, Carries.map_iff]
  have hk : j.tagged? (Json.kindAmong? ContractMember.kinds) = some (kind, rest) := hkind
  have hk' : j'.tagged? (Json.kindAmong? ContractMember.kinds) = some (kind, rest') := hkind'
  rw [ContractMember.read, ContractMember.read, hk, hk']
  clear hfield hk hk' hkind hkind'
  simp only [NodeSort.slots, NodeSort.contractMemberSlots] at hslot
  split at hslot
  · -- functions
    simp only [List.mem_cons, List.not_mem_nil, Prod.mk.injEq, or_false, hc, and_false,
      false_or] at hslot
    casesm* _ ∨ _
    all_goals
      obtain ⟨rfl, rfl⟩ := ‹_ ∧ _›
      cases hpart
      rename_i hv hv' h
      have hread := Carries.map_iff.1 (h n)
      refine Carries.bind (Q := fun d d' => Node.At R _ (.contractMember (.function d))
        (.contractMember (.function d'))) ?_ fun _ _ hd => .some hd
      refine hrecord.bind fun r r' hr => ?_
      simp (disch := decide) only [hr.withDefault_of_ne, hr.required_of_ne, hr.optional_of_ne]
      refine .bind_same fun _ => .bind_same fun _ => .bind_same fun _ => .bind_same fun _ =>
        .bind_same fun _ => ?_
    · exact hr.withDefault_bind hread fun _ _ hl => .bind_same fun _ => .bind_same fun _ =>
        .bind_same fun _ => .some (.functionParameters rfl hl)
    · exact .bind_same fun _ => hr.withDefault_bind hread fun _ _ hl => .bind_same fun _ =>
        .bind_same fun _ => .some (.functionReturns rfl hl)
    · exact .bind_same fun _ => .bind_same fun _ => hr.items_bind hread fun _ _ _ _ hlen hm =>
        .bind_same fun _ => .some (.functionModifier rfl hlen hm)
    · exact .bind_same fun _ => .bind_same fun _ => .bind_same fun _ =>
        hr.optional_bind hv hv' hread fun _ _ hb => .some (.functionBody rfl hb)
  · -- events
    simp only [List.mem_cons, List.not_mem_nil, Prod.mk.injEq, or_false, hc, and_false,
      false_or] at hslot
    obtain ⟨rfl, rfl⟩ := hslot
    cases hpart with
    | node hv hv' h =>
      refine Carries.bind (Q := fun d d' => Node.At R _ (.contractMember (.event d))
        (.contractMember (.event d'))) ?_ fun _ _ hd => .some hd
      refine hrecord.bind fun r r' hr => ?_
      simp (disch := decide) only [hr.withDefault_of_ne, hr.required_of_ne]
      exact .bind_same fun _ => .bind_same fun _ =>
        hr.withDefault_bind (Carries.map_iff.1 (h n)) fun _ _ hl => .some (.eventParameters rfl hl)
  · -- modifiers have no parts
    simp [hc] at hslot
  · -- state variables
    have hslot' : (name, c) ∈ NodeSort.declaration.slots "" := hslot
    exact (Carries.map_iff.1 (declaration_step hslot' hrecord hpart)).bind
      fun _ _ hv => .some (.variable hv)
  · exact absurd hslot List.not_mem_nil

theorem member_step (hkind : NodeSort.member.tagged? j = some (kind, rest))
    (hslot : (name, c) ∈ NodeSort.member.slots kind)
    (hfield : FieldReplaced (NodeSort.member.columns kind) name w w' j j')
    (hpart : PartReplaced R p name c step w w') :
    Carries (Node.At R (step :: p)) (NodeSort.member.read n j) (NodeSort.member.read n j') := by
  have hc : c ≠ .data := by cases hpart <;> nofun
  obtain ⟨rest', hkind', hrecord⟩ :=
    NodeSort.exists_tagged?_of_replaced hkind hslot hc hfield
  rw [NodeSort.read, NodeSort.read, Carries.map_iff]
  have hk : j.tagged? Json.text? = some (kind, rest) := hkind
  have hk' : j'.tagged? Json.text? = some (kind, rest') := hkind'
  rw [SourceMember.readNode, SourceMember.readNode, hk, hk']
  clear hfield hk hk' hkind hkind'
  simp only [NodeSort.slots, NodeSort.memberSlots] at hslot
  split at hslot
  · simp only [List.mem_cons, List.not_mem_nil, Prod.mk.injEq, or_false, hc, and_false,
      false_or] at hslot
    obtain ⟨rfl, rfl⟩ := hslot
    cases hpart with
    | nodes before after hv hv' h =>
      refine Carries.bind (Q := fun c c' => Node.At R _ (.member (.contract c))
        (.member (.contract c'))) ?_ fun _ _ hc => .some hc
      refine hrecord.bind fun r r' hr => ?_
      simp (disch := decide) only [hr.withDefault_of_ne, hr.required_of_ne]
      exact .bind_same fun _ => .bind_same fun _ => .bind_same fun _ => .bind_same fun _ =>
        .bind_same fun _ => hr.items_bind (Carries.map_iff.1 (h n)) fun _ _ _ _ hlen hm =>
          .some (.contractMember rfl hlen hm)
  · exact absurd hslot List.not_mem_nil

/-! ## Edits at any place -/

/-- An edit in one part of a node. -/
theorem step_of_part {s : NodeSort} (hs : s ≠ .unit) (hkind : s.tagged? j = some (kind, rest))
    (hslot : (name, c) ∈ s.slots kind) (hfield : FieldReplaced (s.columns kind) name w w' j j')
    (hpart : PartReplaced R p name c step w w') (n : Nat) :
    Carries (Node.At R (step :: p)) (s.read n j) (s.read n j') := by
  have hc : c ≠ .data := by cases hpart <;> nofun
  cases s with
  | unit => exact absurd rfl hs
  | member => exact member_step hkind hslot hfield hpart
  | contractMember => exact contractMember_step hkind hslot hfield hpart
  | parameters => exact parameters_step hslot hfield hpart
  | declaration =>
    exact declaration_step hslot (NodeSort.record?_of_replaced rfl hslot hfield) hpart
  | descriptions => simp [NodeSort.slots, hc] at hslot
  | typeName => exact typeName_step hslot hfield hpart
  | invocation => exact invocation_step hslot hfield hpart
  | path => simp [NodeSort.slots, hc] at hslot
  | block => exact block_step hslot hfield hpart
  | statement => exact statement_step hkind hslot hfield hpart
  | expression => exact expression_step hkind hslot hfield hpart

/-- The members that are written in a source file. -/
def memberValues (u : Json) : List Json :=
  match (u.record? (NodeSort.unit.names "")).bind (·.find? "nodes") with
  | some (.array items) => items
  | _ => []

/-- The members of a source file keep within the limit on brackets. -/
def WithinNesting (u : Json) : Prop := ∀ m ∈ memberValues u, m.depth ≤ memberNesting

instance (u : Json) : Decidable (WithinNesting u) :=
  inferInstanceAs (Decidable (∀ m ∈ memberValues u, m.depth ≤ memberNesting))

/-- An edit that is read as a change from one node to a related one where it is made, and leaves
literals readable in members of source files. -/
structure ReadsAs (edit : NodeSort → Json → Json → Prop) (R : Node → Node → Prop) : Prop where
  ne_null : ∀ s j j', edit s j j' → j ≠ .null ∧ j' ≠ .null
  readable : ∀ s j j', s ≠ .unit → edit s j j' → j.isReadable = true → j'.isReadable = true
  carries : ∀ s n j j', s ≠ .unit → edit s j j' → Carries R (s.read n j) (s.read n j')
  unit : ∀ u u', edit .unit u u' → WithinNesting u' →
    Carries R (NodeSort.unit.read 0 u) (NodeSort.unit.read 0 u')

variable {edit : NodeSort → Json → Json → Prop}

/-- An edit inside a member of a source file is read as an edit at the same place. -/
theorem carries_of_edited (hedit : ReadsAs edit R) {s : NodeSort} (hs : s ≠ .unit)
    (h : Edited edit s p j j') : ∀ n, Carries (Node.At R p) (s.read n j) (s.read n j') := by
  induction h with
  | here h => exact fun n => (hedit.carries _ n _ _ hs h).mono fun _ _ => .here
  | field hkind hslot hfield h ih =>
    obtain ⟨hv, hv'⟩ := ne_null_of_edited hedit.ne_null h
    exact step_of_part hs hkind hslot hfield
      (.node hv hv' (ih (NodeSort.ne_unit_of_node hslot)))
  | item before after hkind hslot hfield h ih =>
    obtain ⟨hv, hv'⟩ := ne_null_of_edited hedit.ne_null h
    exact step_of_part hs hkind hslot hfield
      (.nodes before after hv hv' (ih (NodeSort.ne_unit_of_nodes hslot)))

theorem memberValues_of_record {u : Json} {r : Record} {items : List Json}
    (hr : u.record? (NodeSort.unit.names "") = some r)
    (hitems : r.find? "nodes" = some (.array items)) : memberValues u = items := by
  rw [memberValues, hr, Option.bind_some, hitems]

theorem carries_member (hedit : ReadsAs edit R) {m m' : Json}
    (h : Edited edit .member p m m') (hdepth : m'.depth ≤ memberNesting) :
    Carries (fun x y => Node.At R p (.member x) (.member y)) (SourceMember.read m)
      (SourceMember.read m') := by
  rw [SourceMember.read_eq, SourceMember.read_eq]
  split
  · next hm =>
    rw [if_pos ⟨isReadable_of_edited hedit.readable h (by decide) hm.1, hdepth⟩]
    exact Carries.map_iff.1 (carries_of_edited hedit (by decide) h memberNesting)
  · exact .none

/-- An edit in a source file is read as an edit at the same place. -/
theorem carries_unit_of_edited (hedit : ReadsAs edit R) {u u' : Json}
    (h : Edited edit .unit p u u') (hlimit : WithinNesting u') :
    Carries (Node.At R p) (NodeSort.unit.read 0 u) (NodeSort.unit.read 0 u') := by
  cases h with
  | here h => exact (hedit.unit _ _ h hlimit).mono fun _ _ => .here
  | field _ hslot => simp [NodeSort.slots] at hslot
  | @item _ _ _ _ _ v v' _ _ _ before after _ hslot hfield h =>
    simp only [NodeSort.slots, List.mem_cons, List.not_mem_nil, Prod.mk.injEq, or_false,
      reduceCtorEq, and_false, false_or, Content.nodes.injEq] at hslot
    obtain ⟨rfl, rfl⟩ := hslot
    have hslot : ("nodes", Content.nodes .member) ∈ NodeSort.unit.slots "" := by decide
    have hrecord := NodeSort.record?_of_replaced rfl hslot hfield
    rw [NodeSort.read, NodeSort.read, Carries.map_iff, SourceUnit.read, SourceUnit.read]
    refine hrecord.with_eq.bind fun r r' h => ?_
    obtain ⟨hr, -, hr'⟩ := h
    have hvalues := memberValues_of_record hr' hr.find?_of_eq
    have hdepth : v'.depth ≤ memberNesting :=
      hlimit v' (hvalues ▸ List.mem_append_right before List.mem_cons_self)
    simp (disch := decide) only [hr.withDefault_of_ne]
    exact .bind_same fun _ => hr.items_bind (carries_member hedit h hdepth) fun _ _ _ _ hlen hm =>
      .some (.unitMember hlen hm)

end Solidity

end TokenConformance
