import TokenConformance.Body.Facts
import TokenConformance.Proofs.Body.Position

/-! # Where guards stand

* `GuardCondition`: the statements with a guard, and its condition.
* `ReadIn`, `WritesIn`: what a condition reads, and whether a statement changes the state, said by
  what occurs in them.
* `GatesWrite`: when the guard of a statement gates a write, given what comes after the statement.
* `Followed.guard?`, `followed_guards_eq`: the guard of one statement, apart from those inside it.
* `guards_listing`: the guards of a body, in order, are those of its statements with a guard.
-/

namespace TokenConformance.Body

open Solidity

/-! ## One statement -/

/-- A statement has a guard with a condition. A `for` has none where it has no condition. -/
inductive GuardCondition : Statement → Expression → Prop where
  | branch (condition whenTrue whenFalse) :
      GuardCondition (.branch condition whenTrue whenFalse) condition
  | require (declaration condition message) : GuardCondition
      (.expression (.call (.identifier "require" declaration) (condition :: message))) condition
  | assert (declaration condition more) : GuardCondition
      (.expression (.call (.identifier "assert" declaration) (condition :: more))) condition
  | forLoop (initial condition step body) :
      GuardCondition (.forLoop initial (some condition) step body) condition
  | whileLoop (condition body) : GuardCondition (.whileLoop condition body) condition
  | doWhileLoop (condition body) : GuardCondition (.doWhileLoop condition body) condition

/-- Something inside a condition reads a name. -/
def ReadIn (scope : Scope) (condition : Expression) (name : String) : Prop :=
  ∃ e, condition.Inside e ∧ readOf scope e = some name

/-- A write occurs in a statement at any depth. -/
def WritesIn (scope : Scope) (s : Statement) : Prop :=
  ∃ e, ExpressionOccurs [s] e ∧ writes scope e = true

/-- The guard of a statement gates a write, where `later` are the statements after it in its list.
A condition that is left false by a branch that never falls through gates what comes after it. -/
inductive GatesWrite (scope : Scope) : Statement → List Statement → Prop where
  | whenTrue {condition whenTrue whenFalse later} (h : WritesIn scope whenTrue) :
      GatesWrite scope (.branch condition whenTrue whenFalse) later
  | whenFalse {condition whenTrue whenFalse later} (h : WritesIn scope whenFalse) :
      GatesWrite scope (.branch condition whenTrue (some whenFalse)) later
  | afterBranch {condition whenTrue whenFalse later s} (hends : terminates whenTrue = true)
      (hs : s ∈ later) (h : WritesIn scope s) :
      GatesWrite scope (.branch condition whenTrue whenFalse) later
  | afterAssertion {e later s} (hs : s ∈ later) (h : WritesIn scope s) :
      GatesWrite scope (.expression e) later
  | forLoop {initial condition step body later} (h : WritesIn scope body) :
      GatesWrite scope (.forLoop initial condition step body) later
  | whileLoop {condition body later} (h : WritesIn scope body) :
      GatesWrite scope (.whileLoop condition body) later
  | doWhileLoop {condition body later} (h : WritesIn scope body) :
      GatesWrite scope (.doWhileLoop condition body) later

theorem mem_reads_iff {scope : Scope} {condition : Expression} {name : String} :
    name ∈ reads scope condition ↔ ReadIn scope condition name := by
  rw [reads, OrderedSet.mem_ofList, List.mem_filterMap]
  exact exists_congr fun e => and_congr_left' Expression.mem_nodes_iff

theorem statementWrites_iff {scope : Scope} {s : Statement} :
    statementWrites scope s = true ↔ WritesIn scope s := by
  have hflat : s.expressions = [s].flatMap Statement.expressions := by simp
  rw [statementWrites, hflat, List.any_eq_true]
  exact exists_congr fun e => and_congr_left' mem_expressions_iff

theorem any_statementWrites_iff {scope : Scope} {later : List Statement} :
    later.any (statementWrites scope) = true ↔ ∃ s ∈ later, WritesIn scope s := by
  rw [List.any_eq_true]
  exact exists_congr fun s => and_congr_right fun _ => statementWrites_iff

theorem optionWrites_iff {scope : Scope} {s : Option Statement} :
    optionWrites scope s = true ↔ ∃ t, s = some t ∧ WritesIn scope t := by
  cases s with
  | none => simp [optionWrites]
  | some t => simpa [optionWrites] using statementWrites_iff

theorem gatesWrite_branch_iff {scope : Scope} {condition : Expression} {whenTrue : Statement}
    {whenFalse : Option Statement} {later : List Statement} :
    (statementWrites scope whenTrue || optionWrites scope whenFalse ||
        (terminates whenTrue && later.any (statementWrites scope))) = true ↔
      GatesWrite scope (.branch condition whenTrue whenFalse) later := by
  rw [Bool.or_eq_true, Bool.or_eq_true, Bool.and_eq_true, statementWrites_iff, optionWrites_iff,
    any_statementWrites_iff]
  constructor
  · rintro ((h | ⟨s, rfl, h⟩) | ⟨hends, s, hs, h⟩)
    · exact .whenTrue h
    · exact .whenFalse h
    · exact .afterBranch hends hs h
  · rintro (h | h | ⟨hends, hs, h⟩)
    · exact .inl (.inl h)
    · exact .inl (.inr ⟨_, rfl, h⟩)
    · exact .inr ⟨hends, _, hs, h⟩

theorem gatesWrite_expression_iff {scope : Scope} {e : Expression} {later : List Statement} :
    later.any (statementWrites scope) = true ↔ GatesWrite scope (.expression e) later := by
  rw [any_statementWrites_iff]
  constructor
  · rintro ⟨s, hs, h⟩
    exact .afterAssertion hs h
  · rintro (_ | _ | _ | ⟨hs, h⟩)
    exact ⟨_, hs, h⟩

theorem assertedCondition?_eq_some_iff {e condition : Expression} :
    assertedCondition? e = some condition ↔ GuardCondition (.expression e) condition := by
  constructor
  · intro h
    unfold assertedCondition? at h
    split at h
    case h_1 name declaration arguments =>
      split at h
      case isTrue hname =>
        obtain ⟨more, rfl⟩ : ∃ more, arguments = condition :: more :=
          ⟨arguments.tail, (List.cons_head?_tail h).symm⟩
        rcases hname with rfl | rfl
        · exact .require _ _ _
        · exact .assert _ _ _
      case isFalse => exact absurd h nofun
    case h_2 => exact absurd h nofun
  · rintro (_ | _) <;> rfl

/-! ## The statements of a body -/

/-- The guard of a statement, without those of statements inside it. -/
def Followed.guard? (scope : Scope) (x : Followed) : Option Guard :=
  match x.statement with
  | .branch condition whenTrue whenFalse =>
    some ⟨reads scope condition,
      statementWrites scope whenTrue || optionWrites scope whenFalse ||
        (terminates whenTrue && x.later.any (statementWrites scope))⟩
  | .expression e =>
    (assertedCondition? e).map fun c => ⟨reads scope c, x.later.any (statementWrites scope)⟩
  | .forLoop _ condition _ body =>
    condition.map fun c => ⟨reads scope c, statementWrites scope body⟩
  | .whileLoop condition body => some ⟨reads scope condition, statementWrites scope body⟩
  | .doWhileLoop condition body => some ⟨reads scope condition, statementWrites scope body⟩
  | _ => none

/-- The guards of a statement and of those inside it. -/
def Followed.guards (scope : Scope) (x : Followed) : List Guard :=
  guardsOf scope (x.later.any (statementWrites scope)) x.statement

theorem guards_eq_flatMap (scope : Scope) (statements : List Statement) :
    guards scope statements = (Followed.ofList statements).flatMap (Followed.guards scope) := by
  induction statements with
  | nil => rfl
  | cons s later ih => rw [guards, ih]; rfl

/-- The guard of a statement comes before those inside it. -/
theorem followed_guards_eq (scope : Scope) (x : Followed) :
    Followed.guards scope x =
      (Followed.guard? scope x).toList ++ x.parts.flatMap (Followed.guards scope) := by
  obtain ⟨s, later⟩ := x
  have hparts : ∀ statements : List Statement,
      (Followed.ofList statements).flatMap (Followed.guards scope) = guards scope statements :=
    fun statements => (guards_eq_flatMap scope statements).symm
  cases s with
  | branch condition whenTrue whenFalse =>
    cases whenFalse <;>
      simp [Followed.guards, Followed.guard?, Followed.parts, Statement.lists, guardsOf,
        guardsOfOption, Followed.ofList]
  | expression e =>
    cases h : assertedCondition? e <;>
      simp [Followed.guards, Followed.guard?, Followed.parts, Statement.lists, guardsOf, h]
  | _ =>
    simp [Followed.guards, Followed.guard?, Followed.parts, Statement.lists, guardsOf,
      Followed.ofList, hparts]

/-- The guard of a statement says what its condition reads and whether it gates a write. -/
theorem of_guard?_eq_some {scope : Scope} {x : Followed} {g : Guard}
    (h : Followed.guard? scope x = some g) :
    ∃ condition, GuardCondition x.statement condition ∧
      (∀ name, name ∈ g.reads ↔ ReadIn scope condition name) ∧
      (g.gatesWrite = true ↔ GatesWrite scope x.statement x.later) := by
  obtain ⟨s, later⟩ := x
  cases s with
  | branch condition whenTrue whenFalse =>
    obtain rfl := Option.some.inj h
    exact ⟨_, .branch _ _ _, fun _ => mem_reads_iff, gatesWrite_branch_iff⟩
  | expression e =>
    obtain ⟨condition, hcondition, rfl⟩ := Option.map_eq_some_iff.1 h
    exact ⟨_, assertedCondition?_eq_some_iff.1 hcondition, fun _ => mem_reads_iff,
      gatesWrite_expression_iff⟩
  | forLoop initial condition step body =>
    obtain ⟨condition, rfl, rfl⟩ := Option.map_eq_some_iff.1 h
    refine ⟨_, .forLoop _ _ _ _, fun _ => mem_reads_iff, statementWrites_iff.trans ?_⟩
    exact ⟨.forLoop, fun | .forLoop hwrite => hwrite⟩
  | whileLoop condition body =>
    obtain rfl := Option.some.inj h
    refine ⟨_, .whileLoop _ _, fun _ => mem_reads_iff, statementWrites_iff.trans ?_⟩
    exact ⟨.whileLoop, fun | .whileLoop hwrite => hwrite⟩
  | doWhileLoop condition body =>
    obtain rfl := Option.some.inj h
    refine ⟨_, .doWhileLoop _ _, fun _ => mem_reads_iff, statementWrites_iff.trans ?_⟩
    exact ⟨.doWhileLoop, fun | .doWhileLoop hwrite => hwrite⟩
  | _ => exact absurd h nofun

theorem isSome_guard?_iff {scope : Scope} {x : Followed} :
    (Followed.guard? scope x).isSome = true ↔
      ∃ condition, GuardCondition x.statement condition := by
  constructor
  · intro h
    obtain ⟨g, hg⟩ := Option.isSome_iff_exists.1 h
    obtain ⟨condition, hcondition, -⟩ := of_guard?_eq_some hg
    exact ⟨condition, hcondition⟩
  · obtain ⟨s, later⟩ := x
    rintro ⟨condition, h⟩
    cases h <;> rfl

/-- The guards of a body are those of its statements with a guard: of every `if`, of every `for`
with a condition, of every other loop, and of every `require` and `assert` with a condition,
wherever it stands in the lists of statements that the body is made of. They come in the order of the places,
one for each place. A guard reads what its condition reads, and gates a write exactly if a write
occurs in what the condition decides on: in a branch, in the body of the loop, or, for an assertion
and for a branch that never falls through, in what comes later in the same list. -/
theorem guards_listing (scope : Scope) (body : List Statement) :
    ∃ places, IsListing Followed.parts (fun x => ∃ condition, GuardCondition x.statement condition)
        ⟨.block body, []⟩ places ∧
      List.Forall₂ (fun place g => ∃ condition, GuardCondition place.2.statement condition ∧
          (∀ name, name ∈ g.reads ↔ ReadIn scope condition name) ∧
          (g.gatesWrite = true ↔ GatesWrite scope place.2.statement place.2.later))
        places (bodyFacts scope (some body)).guards := by
  obtain ⟨places, hlisting, hguards⟩ := exists_listing (fun x => sizeOf x.statement)
    (fun _ _ => Followed.sizeOf_lt_of_mem_parts) (followed_guards_eq scope) ⟨.block body, []⟩
  exact ⟨places, hlisting.congr fun _ => isSome_guard?_iff,
    hguards.imp fun _ _ => of_guard?_eq_some⟩

end TokenConformance.Body
