import Mathlib.Data.List.Perm.Basic
import TokenConformance.Body.Facts

/-! # Bodies in scopes that agree

A name may mean several functions. What is known of a body does not depend on their order:

* `Scope.Agree`: two scopes in which names and references mean the same, in whatever order.
* `callees_perm`, `calls_eq`: the functions that a body calls.
* `writes_eq`, `reads_eq`: what expressions do.
* `guards_eq`, `emissions_eq`: what is known of statements.
* `bodyFacts_eq`: all of it together.
-/

namespace TokenConformance.Body

open Solidity

/-- Names and references mean the same in two scopes. A name may mean several functions, and they
may come in another order. -/
structure Scope.Agree (s s' : Scope) : Prop where
  stateVar? : ∀ name declaration, s.stateVar? name declaration = s'.stateVar? name declaration
  callees : ∀ name declaration, (s.callees name declaration).Perm (s'.callees name declaration)
  event? : ∀ name declaration, s.event? name declaration = s'.event? name declaration

variable {s s' : Scope}

/-! ## Expressions -/

theorem callees_perm (h : s.Agree s') : ∀ e, (callees s e).Perm (callees s' e)
  | .identifier name declaration => by
    rw [callees, callees]
    exact h.callees name declaration
  | .member (.identifier object _) name declaration => by
    rw [callees, callees]
    by_cases hobject : object = "super" ∨ object = "this"
    · rw [if_pos hobject, if_pos hobject]
      exact h.callees name declaration
    · rw [if_neg hobject, if_neg hobject]
  | .withOptions e => by
    rw [callees, callees]
    exact callees_perm h e
  | .member (.member _ _ _) _ _ | .member (.index _ _) _ _ | .member (.call _ _) _ _
  | .member (.withOptions _) _ _ | .member (.binary _ _) _ _ | .member (.unary _ _) _ _
  | .member (.assign _ _) _ _ | .member (.conditional _ _ _) _ _ | .member (.tuple _) _ _
  | .member .other _ _ | .index _ _ | .call _ _ | .binary _ _ | .unary _ _ | .assign _ _
  | .conditional _ _ _ | .tuple _ | .other => by
    simp only [callees, List.Perm.refl]

mutual

theorem isStateRooted_eq (h : s.Agree s') :
    ∀ e, isStateRooted s e = isStateRooted s' e
  | .identifier name declaration => by
    rw [isStateRooted, isStateRooted, h.stateVar?]
  | .index base _ => by
    rw [isStateRooted, isStateRooted, isStateRooted_eq h base]
  | .member object _ _ => by
    rw [isStateRooted, isStateRooted, isStateRooted_eq h object]
  | .tuple components => by
    rw [isStateRooted, isStateRooted, anyStateRooted_eq h components]
  | .call _ _ | .withOptions _ | .binary _ _ | .unary _ _ | .assign _ _ | .conditional _ _ _
  | .other => by
    simp only [isStateRooted]

theorem anyStateRooted_eq (h : s.Agree s') :
    ∀ components, anyStateRooted s components = anyStateRooted s' components
  | [] => rfl
  | none :: rest => by
    rw [anyStateRooted, anyStateRooted, anyStateRooted_eq h rest]
  | some e :: rest => by
    rw [anyStateRooted, anyStateRooted, isStateRooted_eq h e, anyStateRooted_eq h rest]

end

/-- A call may change the state if one of the functions that it may run does, whichever it is. -/
theorem any_callees_eq (h : s.Agree s') (e : Expression) (p : Callee → Bool) :
    (callees s e).any p = (callees s' e).any p := by
  rw [Bool.eq_iff_iff, List.any_eq_true, List.any_eq_true]
  exact exists_congr fun c => and_congr_left' (callees_perm h e).mem_iff

theorem callWrites_eq (h : s.Agree s') (callee : Expression) :
    callWrites s callee = callWrites s' callee := by
  unfold callWrites
  split
  · rw [isStateRooted_eq h, any_callees_eq h]
  · rw [any_callees_eq h]

theorem writes_eq (h : s.Agree s') : writes s = writes s' := by
  funext e
  unfold writes
  split
  · exact isStateRooted_eq h _
  · rw [isStateRooted_eq h]
  · exact callWrites_eq h _
  · rfl

theorem reads_eq (h : s.Agree s') : reads s = reads s' := by
  funext condition
  have hread : readOf s = readOf s' := by
    funext e
    unfold readOf
    split
    · exact h.stateVar? _ _
    all_goals rfl
  rw [reads, reads, hread]

/-! ## Statements -/

theorem statementWrites_eq (h : s.Agree s') : statementWrites s = statementWrites s' := by
  funext statement
  rw [statementWrites, statementWrites, writes_eq h]

theorem optionWrites_eq (h : s.Agree s') (statement : Option Statement) :
    optionWrites s statement = optionWrites s' statement := by
  cases statement with
  | none => rfl
  | some statement => rw [optionWrites, optionWrites, statementWrites_eq h]

mutual

theorem guards_eq (h : s.Agree s') : ∀ statements, guards s statements = guards s' statements
  | [] => rfl
  | statement :: rest => by
    rw [guards, guards, statementWrites_eq h, guardsOf_eq h _ statement, guards_eq h rest]

theorem guardsOf_eq (h : s.Agree s') (later : Bool) :
    ∀ statement, guardsOf s later statement = guardsOf s' later statement
  | .branch condition whenTrue whenFalse => by
    rw [guardsOf, guardsOf, reads_eq h, statementWrites_eq h, optionWrites_eq h,
      guardsOf_eq h false whenTrue, guardsOfOption_eq h whenFalse]
  | .expression e => by
    rw [guardsOf, guardsOf, reads_eq h]
  | .forLoop _ condition _ body => by
    rw [guardsOf, guardsOf, reads_eq h, statementWrites_eq h, guardsOf_eq h false body]
  | .whileLoop condition body => by
    rw [guardsOf, guardsOf, reads_eq h, statementWrites_eq h, guardsOf_eq h false body]
  | .doWhileLoop condition body => by
    rw [guardsOf, guardsOf, reads_eq h, statementWrites_eq h, guardsOf_eq h false body]
  | .block statements => by
    rw [guardsOf, guardsOf, guards_eq h statements]
  | .unchecked statements => by
    rw [guardsOf, guardsOf, guards_eq h statements]
  | .declaration _ | .ret _ | .emit _ | .revert _ | .other => by
    simp only [guardsOf]

theorem guardsOfOption_eq (h : s.Agree s') :
    ∀ statement, guardsOfOption s statement = guardsOfOption s' statement
  | none => rfl
  | some statement => by
    rw [guardsOfOption, guardsOfOption, guardsOf_eq h false statement]

end

theorem emissions_eq (h : s.Agree s') (statements : List Statement) :
    emissions s statements = emissions s' statements := by
  have hemission : emission? s = emission? s' := by
    funext statement
    unfold emission?
    split
    · unfold emissionOf?
      split
      · rw [h.event?]
      · rw [h.event?]
      · rfl
    · rfl
  rw [emissions, emissions, hemission]

theorem calls_eq (h : s.Agree s') (statements : List Statement) :
    calls s statements = calls s' statements := by
  -- the calls are a set, so it does not matter in which order the callees of one name come
  refine OrderedSet.ext fun k => ?_
  rw [calls, calls, OrderedSet.mem_ofList, OrderedSet.mem_ofList, List.mem_flatMap,
    List.mem_flatMap]
  refine exists_congr fun e => and_congr_right fun _ => ?_
  unfold callsOf
  split
  · exact ((callees_perm h _).map _).mem_iff
  · rfl

/-- Where scopes agree, the same is known of a body, in the same order. -/
theorem bodyFacts_eq (h : s.Agree s') (body : Option (List Statement)) :
    bodyFacts s body = bodyFacts s' body := by
  cases body with
  | none => rfl
  | some statements =>
    rw [bodyFacts, bodyFacts, guards_eq h, emissions_eq h, calls_eq h]

end TokenConformance.Body
