import TokenConformance.Proofs.Body.GuardSite
import TokenConformance.Proofs.Body.Recording
import TokenConformance.Proofs.Standard.BalanceGuard

/-! # Calls that change the state

Which functions a call may run and whether it changes the state are found out apart from each other.
They agree on every call but those of a function `push` or `pop` of the contract itself by `super`
or `this`: these are taken for methods of an array, and no array of the state is called so.

* `ChangesState`: a call may run a function of the hierarchy that may change the state.
* `ArrayMethod`, `TakenForArray`: the callees that are, and that are taken for, methods of an array.
* `StateWrite`: what changes the state, whatever a called function is named.
* `writes_iff`: the writes are the state writes but for the calls that are taken for array methods.
* `DecidesOn`: the statements that a condition decides on.
* `calls_write`: where calls and writes agree, and what the guards of a body make of it.
-/

namespace TokenConformance.Body

open Solidity

/-- A call of the callee may run a function of the hierarchy that may change the state. -/
def ChangesState (scope : Scope) (callee : Expression) : Prop :=
  ∃ c ∈ callees scope callee, c.mutability = .nonpayable ∨ c.mutability = .payable

/-- The callee is the member `push` or `pop` of an object. -/
inductive ArrayMethod (object : Expression) : Expression → Prop where
  | push (declaration) : ArrayMethod object (.member object "push" declaration)
  | pop (declaration) : ArrayMethod object (.member object "pop" declaration)

/-- The callee is a member `push` or `pop` of the contract itself, which is no place in the
state. -/
inductive TakenForArray (scope : Scope) : Expression → Prop where
  | super {declaration callee} (hcallee : ArrayMethod (.identifier "super" declaration) callee)
      (h : scope.stateVar? "super" declaration = none) : TakenForArray scope callee
  | this {declaration callee} (hcallee : ArrayMethod (.identifier "this" declaration) callee)
      (h : scope.stateVar? "this" declaration = none) : TakenForArray scope callee

/-- An expression, apart from what is inside it, changes the state: a place of the state is set or
changed, is pushed to or popped from, or a function of the hierarchy that may do so is called. -/
inductive StateWrite (scope : Scope) : Expression → Prop where
  | assign {target} (value) (h : isStateRooted scope target = true) :
      StateWrite scope (.assign target value)
  | unary {operator operand} (hoperator : operator ∈ ["++", "--", "delete"])
      (h : isStateRooted scope operand = true) : StateWrite scope (.unary operator operand)
  | arrayMethod {object callee} (arguments) (hcallee : ArrayMethod object callee)
      (h : isStateRooted scope object = true) : StateWrite scope (.call callee arguments)
  | call {callee} (arguments) (h : ChangesState scope callee) :
      StateWrite scope (.call callee arguments)

variable {scope : Scope} {object callee e : Expression}

/-! ## One expression -/

theorem mutatesState_iff {m : Mutability} :
    m.mutatesState = true ↔ m = .nonpayable ∨ m = .payable := by
  cases m <;> simp [Mutability.mutatesState]

theorem any_mutatesState_iff :
    ((callees scope callee).any fun c => c.mutability.mutatesState) = true ↔
      ChangesState scope callee := by
  simp only [List.any_eq_true, mutatesState_iff, ChangesState]

/-- Of a method of an array it counts whether the array is in the state, and nothing else. -/
theorem callWrites_of_arrayMethod (h : ArrayMethod object callee) :
    callWrites scope callee = isStateRooted scope object := by
  cases h <;> rfl

theorem ArrayMethod.name_mem {name : String} {declaration : Option NodeId}
    (h : ArrayMethod object (.member e name declaration)) : name ∈ ["push", "pop"] := by
  cases h <;> simp

/-- Of every other callee it counts what its call may run. -/
theorem callWrites_iff_of_not_arrayMethod (h : ¬∃ object, ArrayMethod object callee) :
    callWrites scope callee = true ↔ ChangesState scope callee := by
  rw [← any_mutatesState_iff]
  unfold callWrites
  split
  case h_1 object name declaration =>
    rw [if_neg]
    rintro (rfl | rfl)
    · exact h ⟨object, .push declaration⟩
    · exact h ⟨object, .pop declaration⟩
  case h_2 => exact Iff.rfl

/-- Only members of `super` and `this` may be functions of the hierarchy. -/
theorem takenForArray_of_changesState (hcallee : ArrayMethod object callee)
    (hobject : isStateRooted scope object = false) (h : ChangesState scope callee) :
    TakenForArray scope callee := by
  obtain ⟨c, hc, -⟩ := h
  obtain ⟨name, declaration, rfl, hname⟩ : ∃ name declaration,
      object = .identifier name declaration ∧ (name = "super" ∨ name = "this") := by
    cases hcallee <;> unfold callees at hc <;> split at hc <;> grind
  have hnone : scope.stateVar? name declaration = none := by
    simpa [isStateRooted] using hobject
  rcases hname with rfl | rfl
  · exact .super hcallee hnone
  · exact .this hcallee hnone

theorem TakenForArray.exists_arrayMethod (h : TakenForArray scope callee) :
    ∃ object, ArrayMethod object callee := by
  cases h with
  | super hcallee => exact ⟨_, hcallee⟩
  | this hcallee => exact ⟨_, hcallee⟩

theorem TakenForArray.not_callWrites (h : TakenForArray scope callee) :
    callWrites scope callee = false := by
  cases h with
  | super hcallee hnone => rw [callWrites_of_arrayMethod hcallee, isStateRooted, hnone]; rfl
  | this hcallee hnone => rw [callWrites_of_arrayMethod hcallee, isStateRooted, hnone]; rfl

/-- A call that may change the state is a write unless it is taken for the method of an array. -/
theorem callWrites_iff_of_changesState (h : ChangesState scope callee) :
    callWrites scope callee = true ↔ ¬TakenForArray scope callee := by
  constructor
  · intro hwrites htaken
    exact absurd (hwrites.symm.trans htaken.not_callWrites) nofun
  · intro htaken
    -- the names `push` and `pop` are looked at before the functions that the call may run
    by_cases hmethod : ∃ object, ArrayMethod object callee
    · obtain ⟨object, hobject⟩ := hmethod
      rw [callWrites_of_arrayMethod hobject, ← Bool.not_eq_false]
      exact fun hnot => htaken (takenForArray_of_changesState hobject hnot h)
    · exact (callWrites_iff_of_not_arrayMethod hmethod).2 h

theorem changesOperand_iff {operator : String} :
    changesOperand operator = true ↔ operator ∈ ["++", "--", "delete"] := by
  simp [changesOperand, or_assoc]

/-- The writes are what changes the state, but for the calls that are taken for methods of an
array. -/
theorem writes_iff : writes scope e = true ↔ StateWrite scope e ∧
    ∀ callee arguments, e = .call callee arguments → ¬TakenForArray scope callee := by
  constructor
  · intro h
    cases e with
    | assign target value => exact ⟨.assign value h, nofun⟩
    | unary operator operand =>
      obtain ⟨hoperator, hoperand⟩ := Bool.and_eq_true_iff.1 h
      exact ⟨.unary (changesOperand_iff.1 hoperator) hoperand, nofun⟩
    | call callee arguments =>
      have h : callWrites scope callee = true := h
      refine ⟨?_, ?_⟩
      · by_cases hmethod : ∃ object, ArrayMethod object callee
        · obtain ⟨object, hobject⟩ := hmethod
          exact .arrayMethod arguments hobject (callWrites_of_arrayMethod hobject ▸ h)
        · exact .call arguments ((callWrites_iff_of_not_arrayMethod hmethod).1 h)
      · rintro callee arguments ⟨⟩ htaken
        exact absurd (h.symm.trans htaken.not_callWrites) nofun
    | _ => exact absurd h nofun
  · rintro ⟨h, htaken⟩
    cases h with
    | assign value htarget => exact htarget
    | unary hoperator hoperand =>
      exact Bool.and_eq_true_iff.2 ⟨changesOperand_iff.2 hoperator, hoperand⟩
    | arrayMethod arguments hmethod hobject =>
      exact (callWrites_of_arrayMethod hmethod).trans hobject
    | call arguments hchanges =>
      exact (callWrites_iff_of_changesState hchanges).2 (htaken _ _ rfl)

/-! ## The guards of a body -/

/-- The condition of a statement decides on another statement, where `later` are the statements
after the first one in its list: on its branches, on the body of its loop, and, for an assertion
and for a branch that never falls through, on what comes later. -/
inductive DecidesOn : Statement → List Statement → Statement → Prop where
  | whenTrue (condition whenTrue whenFalse later) :
      DecidesOn (.branch condition whenTrue whenFalse) later whenTrue
  | whenFalse (condition whenTrue whenFalse later) :
      DecidesOn (.branch condition whenTrue (some whenFalse)) later whenFalse
  | afterBranch {whenTrue later s} (condition whenFalse) (hends : terminates whenTrue = true)
      (hs : s ∈ later) : DecidesOn (.branch condition whenTrue whenFalse) later s
  | afterAssertion {later s} (e) (hs : s ∈ later) : DecidesOn (.expression e) later s
  | forLoop (initial condition step body later) :
      DecidesOn (.forLoop initial condition step body) later body
  | whileLoop (condition body later) : DecidesOn (.whileLoop condition body) later body
  | doWhileLoop (condition body later) : DecidesOn (.doWhileLoop condition body) later body

theorem gatesWrite_iff {s : Statement} {later : List Statement} :
    GatesWrite scope s later ↔ ∃ t, DecidesOn s later t ∧ WritesIn scope t := by
  constructor
  · rintro (h | h | ⟨hends, hs, h⟩ | ⟨hs, h⟩ | h | h | h)
    · exact ⟨_, .whenTrue _ _ _ _, h⟩
    · exact ⟨_, .whenFalse _ _ _ _, h⟩
    · exact ⟨_, .afterBranch _ _ hends hs, h⟩
    · exact ⟨_, .afterAssertion _ hs, h⟩
    · exact ⟨_, .forLoop _ _ _ _ _, h⟩
    · exact ⟨_, .whileLoop _ _ _, h⟩
    · exact ⟨_, .doWhileLoop _ _ _, h⟩
  · rintro ⟨t, hdecides, h⟩
    cases hdecides with
    | whenTrue => exact .whenTrue h
    | whenFalse => exact .whenFalse h
    | afterBranch condition whenFalse hends hs => exact .afterBranch hends hs h
    | afterAssertion e hs => exact .afterAssertion hs h
    | forLoop => exact .forLoop h
    | whileLoop => exact .whileLoop h
    | doWhileLoop => exact .doWhileLoop h

/-- Something in a statement changes the state, and is no call that is taken for the method of an
array. -/
def WritesApart (scope : Scope) (s : Statement) : Prop :=
  ∃ e, ExpressionOccurs [s] e ∧ StateWrite scope e ∧
    ∀ callee arguments, e = .call callee arguments → ¬TakenForArray scope callee

theorem writesIn_iff {s : Statement} : WritesIn scope s ↔ WritesApart scope s :=
  exists_congr fun _ => and_congr_right' writes_iff

/-- What the guards of a body gate, by what changes the state. -/
theorem guards_gate (scope : Scope) (body : List Statement) :
    ∃ places, IsListing Followed.parts (fun x => ∃ condition, GuardCondition x.statement condition)
        ⟨.block body, []⟩ places ∧
      List.Forall₂ (fun place g => g.gatesWrite = true ↔
          ∃ s, DecidesOn place.2.statement place.2.later s ∧ WritesApart scope s)
        places (guards scope body) := by
  obtain ⟨places, hlisting, hguards⟩ := exists_listing (fun x => sizeOf x.statement)
    (fun _ _ => Followed.sizeOf_lt_of_mem_parts) (followed_guards_eq scope) ⟨.block body, []⟩
  refine ⟨places, hlisting.congr fun _ => isSome_guard?_iff, hguards.imp fun place g hg => ?_⟩
  obtain ⟨-, -, -, hgates⟩ := of_guard?_eq_some hg
  rw [hgates, gatesWrite_iff]
  exact exists_congr fun s => and_congr_right' writesIn_iff

/-- Where calls and writes agree. A call that may run a function which may change the state is a
write, unless it is a call of a member `push` or `pop` of `super` or `this`; with options every such
call is one. And a write that is a call, but not of a member `push` or `pop`, may run such a
function. A body is known to call what its calls may run, the overlooked ones among them; and a
guard gates a write exactly if in something that its condition decides on there is anything that
changes the state and is not overlooked. -/
theorem calls_write (scope : Scope) :
    (∀ callee arguments, ChangesState scope callee →
      (writes scope (.call callee arguments) = true ↔ ¬TakenForArray scope callee)) ∧
    (∀ callee arguments, ChangesState scope (.withOptions callee) →
      writes scope (.call (.withOptions callee) arguments) = true) ∧
    (∀ callee arguments, writes scope (.call callee arguments) = true →
      (¬∃ object, ArrayMethod object callee) → ChangesState scope callee) ∧
    ∀ body,
      (∀ k, k ∈ (bodyFacts scope (some body)).calls ↔ CallOccurs scope body k) ∧
      ∃ places, IsListing Followed.parts
          (fun x => ∃ condition, GuardCondition x.statement condition) ⟨.block body, []⟩ places ∧
        List.Forall₂ (fun place g => g.gatesWrite = true ↔
            ∃ s, DecidesOn place.2.statement place.2.later s ∧ WritesApart scope s)
          places (bodyFacts scope (some body)).guards := by
  refine ⟨fun callee arguments h => callWrites_iff_of_changesState h,
    fun callee arguments h => (callWrites_iff_of_changesState h).2 ?_,
    fun callee arguments h hmethod => (callWrites_iff_of_not_arrayMethod hmethod).1 h,
    fun body => ⟨fun k => mem_calls_iff, guards_gate scope body⟩⟩
  intro htaken
  obtain ⟨object, hobject⟩ := htaken.exists_arrayMethod
  cases hobject

/-! ### A function of the contract that is called by `this` -/

open TokenConformance.Allowance

/-- The names of the hierarchy, and a function of some name that may change the state. -/
def namesWith (name : String) : Scope :=
  { names with
    functions := names.functions.insert 6 ⟨⟨name, ["uint256"]⟩, .nonpayable⟩
    functionsNamed := names.functionsNamed.insert name [⟨⟨name, ["uint256"]⟩, .nonpayable⟩] }

/-- The function as a member of `this`. -/
def ofThis (name : String) : Expression := .member (.identifier "this" (some (-28))) name (some 6)

/-- `require(_balances[owner] >= value); this.f(value);`, where the function has some name. -/
def checkThenCall (name : String) : List Statement :=
  [requireEnough balance, .expression (.call (ofThis name) [value])]

/-- With any other name the call is a write. -/
theorem call_enqueue_writes :
    ChangesState (namesWith "enqueue") (ofThis "enqueue") ∧
      ¬TakenForArray (namesWith "enqueue") (ofThis "enqueue") ∧
      writes (namesWith "enqueue") (.call (ofThis "enqueue") [value]) = true := by
  have hchanges : ChangesState (namesWith "enqueue") (ofThis "enqueue") :=
    ⟨⟨⟨"enqueue", ["uint256"]⟩, .nonpayable⟩, by decide, .inl rfl⟩
  have htaken : ¬TakenForArray (namesWith "enqueue") (ofThis "enqueue") := by
    intro h
    obtain ⟨object, hobject⟩ := h.exists_arrayMethod
    exact absurd hobject.name_mem (by decide)
  exact ⟨hchanges, htaken, ((calls_write (namesWith "enqueue")).1 _ [value] hchanges).2 htaken⟩

/-- A call of a function `push` of the contract is recorded, but is not a write: the check of a
balance before it gates nothing then, and the rule on balances, which is violated where the function
has another name, is met. -/
theorem call_push_overlooked :
    ChangesState (namesWith "push") (ofThis "push") ∧
      writes (namesWith "push") (.call (ofThis "push") [value]) = false ∧
      bodyFacts (namesWith "push") (some (checkThenCall "push")) =
        ⟨[⟨.ofList ["_balances"], false⟩], [], .ofList [⟨"push", ["uint256"]⟩]⟩ ∧
      bodyFacts (namesWith "enqueue") (some (checkThenCall "enqueue")) =
        ⟨[⟨.ofList ["_balances"], true⟩], [], .ofList [⟨"enqueue", ["uint256"]⟩]⟩ ∧
      outcome (bodyFacts (namesWith "push") (some (checkThenCall "push"))) = .ok .satisfied ∧
      outcome (bodyFacts (namesWith "enqueue") (some (checkThenCall "enqueue"))) =
        .ok .violated := by
  refine ⟨⟨⟨⟨"push", ["uint256"]⟩, .nonpayable⟩, by decide, .inl rfl⟩, ?_, ?_, ?_, rfl, rfl⟩
  · decide
  · decide
  · decide

end TokenConformance.Body
