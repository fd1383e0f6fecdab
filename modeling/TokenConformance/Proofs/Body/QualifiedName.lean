import TokenConformance.Proofs.Body.Weakening

/-! # Names with the contract before them

A state variable or a function of the hierarchy may be named with the contract that declares it
before its name. In what is known of a body such a name refers to nothing.

* `Qualifiable`, `qualified`: the names that may be written so, and a body in which some are.
* `unlinked`: the same names by themselves, with a number that nothing has.
* `NamesContract`, `Unknown`: what the name of a contract and that number are not.
* `Silent`, `plain_or_silent`: a name says nothing with a reference; each name of a body is left as
  it is, or says nothing.
* `bodyFacts_qualified`: what is known of a body with qualified names.
-/

namespace TokenConformance.Body

open Solidity

/-- A number is that of a state variable or of a function of the hierarchy. -/
def Declares (scope : Scope) (id : NodeId) : Prop :=
  (scope.stateVariables.find? id).isSome ∨ (scope.functions.find? id).isSome

instance (scope : Scope) (id : NodeId) : Decidable (Declares scope id) :=
  inferInstanceAs (Decidable (_ ∨ _))

/-- A name refers by its number to a state variable or a function of the hierarchy. The names that
are looked at by their text are left alone. -/
def Qualifiable (scope : Scope) (name : String) (declaration : Option NodeId) : Prop :=
  name ∉ textual ∧ ∃ id ∈ declaration, Declares scope id

instance (scope : Scope) (name : String) (declaration : Option NodeId) :
    Decidable (Qualifiable scope name declaration) :=
  inferInstanceAs (Decidable (_ ∧ _))

/-- The contract that is named before the name at each place, where there is one. -/
abbrev Contracts := Position → Option (String × Option NodeId)

/-- The contracts are written before the names. The names keep their numbers. -/
def qualified (scope : Scope) (contracts : Contracts) : References :=
  fun place name declaration =>
    ⟨if Qualifiable scope name declaration then contracts place else none, declaration⟩

/-- The names that would have a contract before them carry another number instead. -/
def unlinked (scope : Scope) (contracts : Contracts) (number : NodeId) : References :=
  fun place name declaration =>
    ⟨none, if Qualifiable scope name declaration ∧ (contracts place).isSome then some number
      else declaration⟩

/-- The name of a contract is not that of a state variable, and it is not `super` or `this`. -/
structure NamesContract (scope : Scope) (contract : String × Option NodeId) : Prop where
  stateVar? : scope.stateVar? contract.1 contract.2 = none
  notSuper : contract.1 ≠ "super"
  notThis : contract.1 ≠ "this"

/-- Nothing in the hierarchy has a number. -/
structure Unknown (scope : Scope) (number : NodeId) : Prop where
  stateVariables : scope.stateVariables.find? number = none
  functions : scope.functions.find? number = none
  events : scope.events.find? number = none

variable {scope : Scope}

/-! ## Names that say nothing -/

/-- A name says nothing with a reference. -/
structure Silent (scope : Scope) (name : String) (r : Reference) : Prop where
  found : found scope (r.to name) = []
  rooted : isStateRooted scope (r.to name) = false
  callees : callees scope (r.to name) = []

theorem Silent.callWrites {name : String} {r : Reference} (h : Silent scope name r) :
    callWrites scope (r.to name) = false := by
  have hcallees := h.callees
  have hrooted := h.rooted
  obtain ⟨_ | _, declaration⟩ := r <;> simp_all [Reference.to, Body.callWrites, isStateRooted]

theorem Silent.within {name : String} {r r' : Reference} (h : Silent scope name r)
    (hevent : scope.event? name r.declaration = scope.event? name r'.declaration)
    (hname : name ∉ textual) : NameWithin scope name r r' where
  found := by simp [h.found]
  rooted hrooted := by simp [h.rooted] at hrooted
  callees := by simp [h.callees]
  callWrites hwrite := by simp [h.callWrites] at hwrite
  event := hevent
  textual htext := absurd htext hname

theorem silent_qualified {contract : String × Option NodeId} (h : NamesContract scope contract)
    (name : String) (declaration : Option NodeId) :
    Silent scope name ⟨some contract, declaration⟩ where
  found := by
    simp [Reference.to, found_eq, Expression.parts, findings, readOf, writes, callsOf, h.stateVar?]
  rooted := by simp [Reference.to, isStateRooted, h.stateVar?]
  callees := by simp [Reference.to, callees, h.notSuper, h.notThis]

theorem silent_unknown {number : NodeId} (h : Unknown scope number) (name : String) :
    Silent scope name ⟨none, some number⟩ where
  found := by
    simp [Reference.to, found_eq, Expression.parts, findings, readOf, writes, callsOf,
      Scope.stateVar?, h.stateVariables]
  rooted := by simp [Reference.to, isStateRooted, Scope.stateVar?, h.stateVariables]
  callees := by simp [Reference.to, callees, Scope.callees, h.functions]

theorem nameWithin_refl (name : String) (declaration : Option NodeId) :
    NameWithin scope name ⟨none, declaration⟩ ⟨none, declaration⟩ :=
  ⟨List.Subset.refl _, id, List.Subset.refl _, id, rfl, fun _ => ⟨rfl, rfl⟩⟩

/-! ## Bodies -/

/-- The number of an event is not that of a state variable or a function. -/
theorem event?_unlinked {number : NodeId} (hnumber : Unknown scope number)
    (hevents : ∀ id, Declares scope id → scope.events.find? id = none) {name : String}
    {declaration : Option NodeId} (h : Qualifiable scope name declaration) :
    scope.event? name declaration = scope.event? name (some number) := by
  obtain ⟨-, id, rfl, hid⟩ := h
  simp [Scope.event?, hevents id hid, hnumber.events]

section Bodies

variable {contracts : Contracts} {number : NodeId}
  (hcontracts : ∀ place contract, contracts place = some contract → NamesContract scope contract)
  (hnumber : Unknown scope number)
  (hevents : ∀ id, Declares scope id → scope.events.find? id = none)
include hcontracts hnumber hevents

/-- A name is left as it is, or it says nothing with either reference. -/
theorem plain_or_silent (place : Position) (name : String) (declaration : Option NodeId) :
    (qualified scope contracts place name declaration = ⟨none, declaration⟩ ∧
        unlinked scope contracts number place name declaration = ⟨none, declaration⟩) ∨
      (name ∉ textual ∧ Silent scope name (qualified scope contracts place name declaration) ∧
        Silent scope name (unlinked scope contracts number place name declaration) ∧
        scope.event? name declaration =
          scope.event? name (unlinked scope contracts number place name declaration).declaration) := by
  unfold qualified unlinked
  by_cases hqualifiable : Qualifiable scope name declaration
  · cases hcontract : contracts place with
    | none => exact .inl ⟨by simp, by simp⟩
    | some contract =>
      rw [if_pos hqualifiable, if_pos ⟨hqualifiable, rfl⟩]
      exact .inr ⟨hqualifiable.1,
        silent_qualified (hcontracts place contract hcontract) name declaration,
        silent_unknown hnumber name, event?_unlinked hnumber hevents hqualifiable⟩
  · rw [if_neg hqualifiable, if_neg fun h => hqualifiable h.1]
    exact .inl ⟨rfl, rfl⟩

theorem qualified_within_plain : NamesWithin scope (qualified scope contracts) .plain := by
  intro place name declaration
  rcases plain_or_silent hcontracts hnumber hevents place name declaration with
    ⟨hqualified, -⟩ | ⟨hname, hqualified, -, -⟩
  · rw [hqualified]
    exact nameWithin_refl name declaration
  · exact hqualified.within rfl hname

theorem qualified_within_unlinked :
    NamesWithin scope (qualified scope contracts) (unlinked scope contracts number) := by
  intro place name declaration
  rcases plain_or_silent hcontracts hnumber hevents place name declaration with
    ⟨hqualified, hunlinked⟩ | ⟨hname, hqualified, -, hevent⟩
  · rw [hqualified, hunlinked]
    exact nameWithin_refl name declaration
  · exact hqualified.within hevent hname

theorem unlinked_within_qualified :
    NamesWithin scope (unlinked scope contracts number) (qualified scope contracts) := by
  intro place name declaration
  rcases plain_or_silent hcontracts hnumber hevents place name declaration with
    ⟨hqualified, hunlinked⟩ | ⟨hname, -, hunlinked, hevent⟩
  · rw [hqualified, hunlinked]
    exact nameWithin_refl name declaration
  · exact hunlinked.within hevent.symm hname

end Bodies

/-- What is known of a body with qualified names is what is known of it when these names refer to
nothing. So nothing is known of it that is not known of the body with the names by themselves, and
the same is known of both exactly if no guard of the first one reads less or fails to gate a write,
and no call of the second one is missing. -/
theorem bodyFacts_qualified (scope : Scope) (contracts : Contracts) (number : NodeId)
    (body : List Statement)
    (hcontracts : ∀ place contract, contracts place = some contract → NamesContract scope contract)
    (hnumber : Unknown scope number)
    (hevents : ∀ id, Declares scope id → scope.events.find? id = none) :
    bodyFacts scope (some (referBody (qualified scope contracts) body)) =
        bodyFacts scope (some (referBody (unlinked scope contracts number) body)) ∧
      (bodyFacts scope (some (referBody (qualified scope contracts) body))).Within
        (bodyFacts scope (some body)) ∧
      (bodyFacts scope (some (referBody (qualified scope contracts) body)) =
          bodyFacts scope (some body) ↔
        (bodyFacts scope (some body)).Within
          (bodyFacts scope (some (referBody (qualified scope contracts) body)))) := by
  have hless : (bodyFacts scope (some (referBody (qualified scope contracts) body))).Within
      (bodyFacts scope (some body)) := by
    simpa using bodyFacts_within (qualified_within_plain hcontracts hnumber hevents) body
  refine ⟨?_, hless, fun h => h ▸ hless, fun h => hless.antisymm h⟩
  exact (bodyFacts_within (qualified_within_unlinked hcontracts hnumber hevents) body).antisymm
    (bodyFacts_within (unlinked_within_qualified hcontracts hnumber hevents) body)

/-! ### A body that checks a balance, changes it and calls a function -/

namespace Ledger

/-- The state variable `_balances` has the number 2 and the function `_transfer` the number 5. -/
def names : Scope where
  stateVariables := .ofList [(2, "_balances")]
  stateVariableNames := .ofList ["_balances"]
  functions := .ofList [(5, ⟨⟨"_transfer", ["address", "uint256"]⟩, .nonpayable⟩)]
  functionsNamed := .ofList [("_transfer", [⟨⟨"_transfer", ["address", "uint256"]⟩, .nonpayable⟩])]
  events := .empty
  eventsNamed := .empty

/-- `require(_balances[owner] >= value); _balances[owner] = value; _transfer(owner, value);`, where
the state variable and the function are written in some way. -/
def bodyWith (balances transfer : Expression) : List Statement :=
  let owner : Expression := .identifier "owner" (some 7)
  let value : Expression := .identifier "value" (some 8)
  [.expression (.call (.identifier "require" (some (-18)))
      [.binary (.index balances (some owner)) value]),
    .expression (.assign (.index balances (some owner)) value),
    .expression (.call transfer [owner, value])]

/-- The body with the names by themselves. -/
def body : List Statement :=
  bodyWith (.identifier "_balances" (some 2)) (.identifier "_transfer" (some 5))

/-- The contract `Base` before each name. -/
def contracts : Contracts := fun _ => some ("Base", some 1)

theorem facts_qualified :
    (∀ place contract, contracts place = some contract → NamesContract names contract) ∧
      Unknown names 9 ∧ (∀ id, Declares names id → names.events.find? id = none) ∧
      bodyFacts names (some (referBody (qualified names contracts) body)) =
        bodyFacts names (some (referBody (unlinked names contracts 9) body)) ∧
      (bodyFacts names (some (referBody (qualified names contracts) body))).Within
        (bodyFacts names (some body)) := by
  have hcontracts : ∀ place contract, contracts place = some contract →
      NamesContract names contract := by
    rintro place contract hcontract
    obtain rfl := Option.some.inj hcontract
    exact ⟨by decide, by decide, by decide⟩
  have hnumber : Unknown names 9 := ⟨by decide, by decide, by decide⟩
  have hevents : ∀ id, Declares names id → names.events.find? id = none := fun _ _ => rfl
  obtain ⟨hsame, hless, -⟩ := bodyFacts_qualified names contracts 9 body hcontracts hnumber hevents
  exact ⟨hcontracts, hnumber, hevents, hsame, hless⟩

/-- With the contract before the names the condition reads nothing, nothing is written after it and
no function is called. -/
theorem facts_lost :
    referBody (qualified names contracts) body =
        bodyWith (.member (.identifier "Base" (some 1)) "_balances" (some 2))
          (.member (.identifier "Base" (some 1)) "_transfer" (some 5)) ∧
      bodyFacts names (some body) =
        ⟨[⟨.ofList ["_balances"], true⟩], [], .ofList [⟨"_transfer", ["address", "uint256"]⟩]⟩ ∧
      bodyFacts names (some (referBody (qualified names contracts) body)) =
        ⟨[⟨.ofList [], false⟩], [], .ofList []⟩ ∧
      bodyFacts names (some (referBody (qualified names contracts) body)) ≠
        bodyFacts names (some body) := by
  refine ⟨rfl, by decide, by decide, by decide⟩

end Ledger

end TokenConformance.Body
