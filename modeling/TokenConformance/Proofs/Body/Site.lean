import TokenConformance.Body.Facts

/-! # Guards with their conditions

What is known of a guard is what its condition reads. Here the condition itself is kept, so that the
guards of two bodies can be compared condition by condition.

* `Site`, `sites`: the guards of a list of statements with their conditions.
* `guards_eq_sites`: what is known of them are the guards of the list.
* `sites_append`: the guards of two lists, one after the other.
-/

namespace TokenConformance.Body

open Solidity

/-- A guard with its condition. -/
structure Site where
  condition : Expression
  gatesWrite : Bool

/-- What is known of a guard. -/
def Site.guard (scope : Scope) (x : Site) : Guard := ⟨reads scope x.condition, x.gatesWrite⟩

variable {scope : Scope}

mutual

/-- The guards of a list of statements, when `later` tells whether a statement after the list
changes the state. -/
def sites (scope : Scope) (later : Bool) : List Statement → List Site
  | [] => []
  | s :: rest =>
    sitesOf scope (rest.any (statementWrites scope) || later) s ++ sites scope later rest

/-- The guards of one statement, when `later` tells whether a later statement of its list changes
the state. -/
def sitesOf (scope : Scope) (later : Bool) : Statement → List Site
  | .branch condition whenTrue whenFalse =>
    ⟨condition,
      statementWrites scope whenTrue || optionWrites scope whenFalse ||
        (terminates whenTrue && later)⟩ ::
      (sitesOf scope false whenTrue ++ sitesOfOption scope whenFalse)
  | .expression e => ((assertedCondition? e).map fun c => ⟨c, later⟩).toList
  | .forLoop _ condition _ body =>
    (condition.map fun c => ⟨c, statementWrites scope body⟩).toList ++ sitesOf scope false body
  | .whileLoop condition body =>
    ⟨condition, statementWrites scope body⟩ :: sitesOf scope false body
  | .doWhileLoop condition body =>
    ⟨condition, statementWrites scope body⟩ :: sitesOf scope false body
  | .block statements => sites scope false statements
  | .unchecked statements => sites scope false statements
  | _ => []

/-- The guards of a statement that may be missing. -/
def sitesOfOption (scope : Scope) : Option Statement → List Site
  | none => []
  | some s => sitesOf scope false s

end

/-! ## What is known of them -/

mutual

theorem guards_eq_sites : ∀ ss, guards scope ss = (sites scope false ss).map (Site.guard scope)
  | [] => rfl
  | s :: rest => by
    rw [guards, sites, List.map_append, guardsOf_eq_sitesOf _ s, guards_eq_sites rest,
      Bool.or_false]

theorem guardsOf_eq_sitesOf (later : Bool) :
    ∀ s, guardsOf scope later s = (sitesOf scope later s).map (Site.guard scope)
  | .branch _ whenTrue whenFalse => by
    rw [guardsOf, sitesOf, List.map_cons, List.map_append, guardsOf_eq_sitesOf false whenTrue,
      guardsOfOption_eq_sitesOfOption whenFalse]
    rfl
  | .expression e => by
    rw [guardsOf, sitesOf]
    cases assertedCondition? e <;> rfl
  | .forLoop _ condition _ body => by
    rw [guardsOf, sitesOf, List.map_append, guardsOf_eq_sitesOf false body]
    cases condition <;> rfl
  | .whileLoop _ body => by
    rw [guardsOf, sitesOf, List.map_cons, guardsOf_eq_sitesOf false body]
    rfl
  | .doWhileLoop _ body => by
    rw [guardsOf, sitesOf, List.map_cons, guardsOf_eq_sitesOf false body]
    rfl
  | .block statements => by rw [guardsOf, sitesOf, guards_eq_sites statements]
  | .unchecked statements => by rw [guardsOf, sitesOf, guards_eq_sites statements]
  | .declaration _ | .ret _ | .emit _ | .revert _ | .other => rfl

theorem guardsOfOption_eq_sitesOfOption :
    ∀ s, guardsOfOption scope s = (sitesOfOption scope s).map (Site.guard scope)
  | none => rfl
  | some s => guardsOf_eq_sitesOf false s

end

/-! ## Lists -/

theorem sites_singleton (later : Bool) (s : Statement) :
    sites scope later [s] = sitesOf scope later s := by
  rw [sites, sites, List.append_nil]
  rfl

/-- What comes after a list decides on its guards by whether it changes the state. -/
theorem sites_append (later : Bool) (ss tt : List Statement) :
    sites scope later (ss ++ tt) =
      sites scope (tt.any (statementWrites scope) || later) ss ++ sites scope later tt := by
  induction ss with
  | nil => rfl
  | cons s rest ih =>
    rw [List.cons_append, sites, ih, List.any_append, sites, List.append_assoc, Bool.or_assoc]

end TokenConformance.Body
