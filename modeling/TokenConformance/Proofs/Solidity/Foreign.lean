import TokenConformance.Proofs.Solidity.Replacement

/-! # Nodes of kinds that are not known

What a compiler of a later version may write where the reader expects something else: members of
files and contracts, statements and expressions of a kind of their own, and further fields.

* `Foreign`: an object of a kind that is not among the known ones.
* `Statement.read_of_foreign`, `ContractMember.read_of_foreign`, …: it is read as `other`.
* `BodyReplaced`, `MemberInserted`, `Extended`: a statement or an expression replaced by a foreign
  object, a foreign object among members, a field that is not declared.
* `bodyReplaced_readsAs`, `memberInserted_readsAs`, `extended_readsAs`: how these edits are read.
-/

namespace TokenConformance.Solidity

open Json (FieldReplaced UndeclaredChanged)

/-! ## Foreign objects -/

/-- An object whose kind is a text and not among the known ones. -/
inductive Foreign (kinds : List String) : Json → Prop where
  | object {fields : List (Option String × Json)} {kind : String}
    (htag : (fields.filter fun f => f.1 = some "nodeType") =
      [(some "nodeType", .string (some kind))])
    (hkind : kind ∉ kinds) : Foreign kinds (.object fields)

variable {kinds : List String} {o : Json}

theorem Foreign.ne_null (h : Foreign kinds o) : o ≠ .null := by
  cases h
  nofun

/-- However kinds are read, that of a foreign object is the text in it. -/
theorem Foreign.tagged? (h : Foreign kinds o) (kind? : Json → Option String)
    (htext : ∀ s, kind? (.string (some s)) = some s) :
    ∃ kind rest, o.tagged? kind? = some (kind, rest) ∧ kind ∉ kinds ∧ rest.ignorable = true := by
  cases h with
  | object htag hkind =>
    exact ⟨_, _, Json.tagged?_object_eq_some.2 ⟨_, _, htag, htext _, rfl⟩, hkind, rfl⟩

theorem Statement.read_of_foreign (h : Foreign Statement.kinds o) (n : Nat) :
    Statement.read (n + 1) o = some .other := by
  obtain ⟨kind, rest, htag, hkind, hrest⟩ :=
    h.tagged? (Json.kindAmong? Statement.kinds) fun _ => rfl
  simp only [Statement.kinds, List.mem_cons, List.not_mem_nil, or_false, not_or] at hkind
  rw [Statement.read, htag]
  simp [hkind, hrest]

theorem Expression.read_of_foreign (h : Foreign Expression.kinds o) (n : Nat) :
    Expression.read (n + 1) o = some .other := by
  obtain ⟨kind, rest, htag, hkind, hrest⟩ :=
    h.tagged? (Json.kindAmong? Expression.kinds) fun _ => rfl
  simp only [Expression.kinds, List.mem_cons, List.not_mem_nil, or_false, not_or] at hkind
  rw [Expression.read, htag]
  simp [hkind, hrest]

theorem ContractMember.read_of_foreign (h : Foreign ContractMember.kinds o) (n : Nat) :
    ContractMember.read n o = some .other := by
  obtain ⟨kind, rest, htag, hkind, hrest⟩ :=
    h.tagged? (Json.kindAmong? ContractMember.kinds) fun _ => rfl
  simp only [ContractMember.kinds, List.mem_cons, List.not_mem_nil, or_false, not_or] at hkind
  rw [ContractMember.read, htag]
  simp [hkind, hrest]

theorem SourceMember.read_of_foreign (h : Foreign ["ContractDefinition"] o)
    (ho : o.isReadable = true) (hdepth : o.depth ≤ memberNesting) :
    SourceMember.read o = some .other := by
  obtain ⟨kind, rest, htag, hkind, hrest⟩ := h.tagged? Json.text? fun _ => rfl
  rw [List.mem_singleton] at hkind
  rw [SourceMember.read, if_pos ⟨ho, hdepth⟩, htag]
  simp [hrest]

/-! ## A foreign statement or expression -/

/-- A statement or an expression, and a foreign object in its place. -/
inductive BodyReplaced (o : Json) : NodeSort → Json → Json → Prop where
  | statement {j : Json} (hj : j ≠ .null) (ho : Foreign Statement.kinds o) :
    BodyReplaced o .statement j o
  | expression {j : Json} (hj : j ≠ .null) (ho : Foreign Expression.kinds o) :
    BodyReplaced o .expression j o

/-- A statement or an expression that has become `other`. -/
inductive BecomesOther : Node → Node → Prop where
  | statement (s : Statement) : BecomesOther (.statement s) (.statement .other)
  | expression (e : Expression) : BecomesOther (.expression e) (.expression .other)

theorem bodyReplaced_readsAs (ho : o.isReadable = true) :
    ReadsAs (BodyReplaced o) BecomesOther where
  ne_null s j j' h := by
    cases h with
    | statement hj ho => exact ⟨hj, ho.ne_null⟩
    | expression hj ho => exact ⟨hj, ho.ne_null⟩
  readable s j j' _ h _ := by cases h <;> exact ho
  carries s n j j' _ h := by
    cases h with
    | statement _ ho =>
      cases n with
      | zero => exact .none
      | succ n =>
        rw [NodeSort.read, NodeSort.read, Carries.map_iff, Statement.read_of_foreign ho]
        exact fun s _ => ⟨.other, rfl, .statement s⟩
    | expression _ ho =>
      cases n with
      | zero => exact .none
      | succ n =>
        rw [NodeSort.read, NodeSort.read, Carries.map_iff, Expression.read_of_foreign ho]
        exact fun e _ => ⟨.other, rfl, .expression e⟩
  unit u u' h := nomatch h

/-! ## A foreign member -/

/-- A source file or a contract, and the same with a foreign object among its members. -/
inductive MemberInserted (o : Json) : NodeSort → Json → Json → Prop where
  | unit {u u' : Json} (before after : List Json) (ho : Foreign ["ContractDefinition"] o)
    (h : FieldReplaced (NodeSort.unit.columns "") "nodes" (.array (before ++ after))
      (.array (before ++ o :: after)) u u') : MemberInserted o .unit u u'
  | contract {m m' rest : Json} (before after : List Json) (ho : Foreign ContractMember.kinds o)
    (hkind : NodeSort.member.tagged? m = some ("ContractDefinition", rest))
    (h : FieldReplaced (NodeSort.member.columns "ContractDefinition") "nodes"
      (.array (before ++ after)) (.array (before ++ o :: after)) m m') :
    MemberInserted o .member m m'

/-- A source file or a contract, and the same with `other` among its members. -/
inductive OtherInserted : Node → Node → Prop where
  | unit (path : String) (before after : List SourceMember) :
    OtherInserted (.unit ⟨path, before ++ after⟩) (.unit ⟨path, before ++ .other :: after⟩)
  | contract {c : ContractDefinition} (before after : List ContractMember)
    (hc : c.members = before ++ after) : OtherInserted (.member (.contract c))
      (.member (.contract { c with members := before ++ .other :: after }))

theorem carries_listOf?_inserted {α : Type} {read : Json → Option α} {a : α}
    (ho : read o = some a) (before after : List Json) :
    Carries (fun l l' => ∃ bs cs, l = bs ++ cs ∧ l' = bs ++ a :: cs)
      (Json.listOf? read (.array (before ++ after)))
      (Json.listOf? read (.array (before ++ o :: after))) := by
  intro l hl
  rw [Json.listOf?, List.mapM_append] at hl
  obtain ⟨bs, hbs, hl⟩ := Option.bind_eq_some_iff.1 hl
  obtain ⟨cs, hcs, hl⟩ := Option.bind_eq_some_iff.1 hl
  exact ⟨bs ++ a :: cs, Json.mapM_append_cons_eq_some.2 ⟨bs, a, cs, hbs, ho, hcs, rfl⟩,
    bs, cs, (Option.some.inj hl).symm, rfl⟩

theorem carries_contract_inserted {m m' : Json} (n : Nat) (h : MemberInserted o .member m m') :
    Carries OtherInserted (NodeSort.member.read n m) (NodeSort.member.read n m') := by
  cases h with
  | contract before after ho hkind h =>
    have hslot : ("nodes", Content.nodes .contractMember) ∈
        NodeSort.member.slots "ContractDefinition" := by decide
    obtain ⟨rest', hkind', hrecord⟩ :=
      NodeSort.exists_tagged?_of_replaced hkind hslot (by decide) h
    have hk : m.tagged? Json.text? = some ("ContractDefinition", _) := hkind
    have hk' : m'.tagged? Json.text? = some ("ContractDefinition", rest') := hkind'
    rw [NodeSort.read, NodeSort.read, Carries.map_iff, SourceMember.readNode,
      SourceMember.readNode, hk, hk']
    refine Carries.bind (Q := fun c c' => OtherInserted (.member (.contract c))
      (.member (.contract c'))) ?_ fun _ _ hc => .some hc
    refine hrecord.bind fun r r' hr => ?_
    simp (disch := decide) only [hr.withDefault_of_ne, hr.required_of_ne]
    refine .bind_same fun _ => .bind_same fun _ => .bind_same fun _ => .bind_same fun _ =>
      .bind_same fun _ => hr.withDefault_bind
        (carries_listOf?_inserted (ContractMember.read_of_foreign ho n) before after) ?_
    rintro _ _ ⟨bs, cs, rfl, rfl⟩
    exact .some (.contract bs cs rfl)

theorem carries_unit_inserted {u u' : Json} (ho : o.isReadable = true)
    (h : MemberInserted o .unit u u') (hlimit : WithinNesting u') :
    Carries OtherInserted (NodeSort.unit.read 0 u) (NodeSort.unit.read 0 u') := by
  cases h with
  | unit before after hforeign h =>
    have hslot : ("nodes", Content.nodes .member) ∈ NodeSort.unit.slots "" := by decide
    have hrecord := NodeSort.record?_of_replaced rfl hslot h
    rw [NodeSort.read, NodeSort.read, Carries.map_iff, SourceUnit.read, SourceUnit.read]
    refine hrecord.with_eq.bind fun r r' h => ?_
    obtain ⟨hr, -, hr'⟩ := h
    have hvalues := memberValues_of_record hr' hr.find?_of_eq
    have hdepth : o.depth ≤ memberNesting :=
      hlimit o (hvalues ▸ List.mem_append_right before List.mem_cons_self)
    simp (disch := decide) only [hr.withDefault_of_ne]
    refine .bind_same fun path => hr.withDefault_bind
      (carries_listOf?_inserted (SourceMember.read_of_foreign hforeign ho hdepth) before after) ?_
    rintro _ _ ⟨bs, cs, rfl, rfl⟩
    exact .some (.unit path bs cs)

theorem memberInserted_readsAs (ho : o.isReadable = true) :
    ReadsAs (MemberInserted o) OtherInserted where
  ne_null s j j' h := by
    cases h with
    | unit _ _ _ h => cases h <;> exact ⟨nofun, nofun⟩
    | contract _ _ _ _ h => cases h <;> exact ⟨nofun, nofun⟩
  readable s j j' hs h hj := by
    cases h with
    | unit => exact absurd rfl hs
    | contract before after _ _ h =>
      refine Json.isReadable_of_replaced h (fun hitems => ?_) hj
      rw [Json.isReadable, Json.allReadable_append] at hitems ⊢
      simp_all [Json.allReadable]
  carries s n j j' hs h := by
    cases s with
    | unit => exact absurd rfl hs
    | member => exact carries_contract_inserted n h
    | _ => cases h
  unit u u' h hlimit := carries_unit_inserted ho h hlimit

/-! ## Further fields -/

/-- A node, and the same with a change in a field that its kind does not declare. Outside of the
members of source files the new value may have literals that denote nothing. -/
inductive Extended : NodeSort → Json → Json → Prop where
  | intro {s : NodeSort} {kind name : String} {rest v j j' : Json}
    (hkind : s.tagged? j = some (kind, rest)) (hname : name ∉ s.columns kind)
    (hv : s = .unit ∨ v.isReadable = true) (h : UndeclaredChanged name v j j') : Extended s j j'

section Extended

variable {s : NodeSort} {kind name : String} {rest v j j' : Json}

/-- The record of a node without a kind does not show the change. -/
theorem record?_of_extended (hs : s.kinds? = none) (hname : name ∉ s.columns kind)
    (h : UndeclaredChanged name v j j') :
    j'.record? (s.names kind) = j.record? (s.names kind) := by
  rw [NodeSort.columns, hs, if_neg (by decide)] at hname
  exact Json.record?_of_undeclared hname h

/-- Nor does the record of a node with a kind. -/
theorem exists_tagged?_of_extended {kind? : Json → Option String} (hs : s.kinds?.isSome = true)
    (hkind : j.tagged? kind? = some (kind, rest)) (hname : name ∉ s.columns kind)
    (h : UndeclaredChanged name v j j') :
    ∃ rest', j'.tagged? kind? = some (kind, rest') ∧ rest'.ignorable = rest.ignorable ∧
      rest'.record? (s.names kind) = rest.record? (s.names kind) := by
  rw [NodeSort.columns, if_pos hs, List.mem_cons, not_or] at hname
  obtain ⟨rest', hkind', hrest⟩ := Json.tagged?_of_undeclared hname.1 h hkind
  exact ⟨rest', hkind', Json.ignorable_of_undeclared hrest,
    Json.record?_of_undeclared hname.2 hrest⟩

theorem Expression.read_of_extended (n : Nat)
    (hkind : j.tagged? (Json.kindAmong? Expression.kinds) = some (kind, rest))
    (hname : name ∉ NodeSort.expression.columns kind) (h : UndeclaredChanged name v j j') :
    Expression.read n j' = Expression.read n j := by
  obtain ⟨rest', hkind', hignorable, hrecord⟩ := exists_tagged?_of_extended rfl hkind hname h
  cases n with
  | zero => rfl
  | succ n =>
    rw [Expression.read, Expression.read, hkind, hkind']
    simp only [Option.bind_eq_bind, Option.bind_some, hignorable]
    split <;> first | exact congrArg (Option.bind · _) hrecord | rfl

theorem Statement.read_of_extended (n : Nat)
    (hkind : j.tagged? (Json.kindAmong? Statement.kinds) = some (kind, rest))
    (hname : name ∉ NodeSort.statement.columns kind) (h : UndeclaredChanged name v j j') :
    Statement.read n j' = Statement.read n j := by
  obtain ⟨rest', hkind', hignorable, hrecord⟩ := exists_tagged?_of_extended rfl hkind hname h
  cases n with
  | zero => rfl
  | succ n =>
    rw [Statement.read, Statement.read, hkind, hkind']
    simp only [Option.bind_eq_bind, Option.bind_some, hignorable]
    split <;> first | exact congrArg (Option.bind · _) hrecord | rfl

theorem ContractMember.read_of_extended (n : Nat)
    (hkind : j.tagged? (Json.kindAmong? ContractMember.kinds) = some (kind, rest))
    (hname : name ∉ NodeSort.contractMember.columns kind) (h : UndeclaredChanged name v j j') :
    ContractMember.read n j' = ContractMember.read n j := by
  obtain ⟨rest', hkind', hignorable, hrecord⟩ := exists_tagged?_of_extended rfl hkind hname h
  rw [ContractMember.read, ContractMember.read, hkind, hkind']
  simp only [Option.bind_eq_bind, Option.bind_some, hignorable]
  split <;>
    first | exact congrArg (Option.bind · _) (congrArg (Option.bind · _) hrecord) | rfl

theorem SourceMember.readNode_of_extended (n : Nat)
    (hkind : j.tagged? Json.text? = some (kind, rest))
    (hname : name ∉ NodeSort.member.columns kind) (h : UndeclaredChanged name v j j') :
    SourceMember.readNode n j' = SourceMember.readNode n j := by
  obtain ⟨rest', hkind', hignorable, hrecord⟩ := exists_tagged?_of_extended rfl hkind hname h
  rw [SourceMember.readNode, SourceMember.readNode, hkind, hkind']
  simp only [Option.bind_eq_bind, Option.bind_some, hignorable]
  split <;>
    first | exact congrArg (Option.bind · _) (congrArg (Option.bind · _) hrecord) | rfl

theorem TypeName.read_of_extended (n : Nat)
    (hname : name ∉ NodeSort.typeName.columns kind) (h : UndeclaredChanged name v j j') :
    TypeName.read n j' = TypeName.read n j := by
  cases n with
  | zero => rfl
  | succ n =>
    rw [TypeName.read, TypeName.read]
    exact congrArg (Option.bind · _) (record?_of_extended rfl hname h)

/-- A field that is not declared does not show in what is read. -/
theorem NodeSort.read_of_extended (n : Nat) (hkind : s.tagged? j = some (kind, rest))
    (hname : name ∉ s.columns kind) (h : UndeclaredChanged name v j j') :
    s.read n j' = s.read n j := by
  have hrecord : s.kinds? = none → j'.record? (s.names kind) = j.record? (s.names kind) :=
    fun hs => record?_of_extended hs hname h
  cases s with
  | member =>
    exact congrArg (Option.map _) (SourceMember.readNode_of_extended n hkind hname h)
  | contractMember =>
    exact congrArg (Option.map _) (ContractMember.read_of_extended n hkind hname h)
  | statement => exact congrArg (Option.map _) (Statement.read_of_extended n hkind hname h)
  | expression => exact congrArg (Option.map _) (Expression.read_of_extended n hkind hname h)
  | typeName => exact congrArg (Option.map _) (TypeName.read_of_extended n hname h)
  | _ => exact congrArg (Option.map _) (congrArg (Option.bind · _) (hrecord rfl))

theorem extended_readsAs : ReadsAs Extended Eq where
  ne_null s j j' h := by
    obtain ⟨_, _, _, h⟩ := h
    cases h <;> exact ⟨nofun, nofun⟩
  readable s j j' hs h hj := by
    obtain ⟨_, _, hv, h⟩ := h
    exact Json.isReadable_of_undeclared h (hv.resolve_left hs) hj
  carries s n j j' _ h := by
    obtain ⟨hkind, hname, _, h⟩ := h
    exact .of_eq (NodeSort.read_of_extended n hkind hname h)
  unit u u' h _ := by
    obtain ⟨hkind, hname, _, h⟩ := h
    exact .of_eq (NodeSort.read_of_extended 0 hkind hname h)

end Extended

end TokenConformance.Solidity
