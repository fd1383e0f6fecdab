import TokenConformance.Collection.OrderedMap
import TokenConformance.Collection.OrderedSet

/-! # The members of a contract as rules see them

* `Visibility`, `Mutability`: the attributes of a function.
* `Selector`: what identifies a function, its name and canonical parameter types, with the order
  by name and then by the types one after another.
* `FunctionShape`, `EventShape`, `ModifierShape`: the members.
* `Guard`, `Emission`, `BodyFacts`: what is known of the body of a function.
* `FlatContract`: a contract with everything that it inherits.
-/

namespace TokenConformance

/-! ## Attributes -/

/-- Who may call a function. -/
inductive Visibility where
  | externalAccess
  | publicAccess
  | internalAccess
  | privateAccess
deriving DecidableEq, Inhabited

namespace Visibility

/-- The keyword. -/
def keyword : Visibility → String
  | externalAccess => "external"
  | publicAccess => "public"
  | internalAccess => "internal"
  | privateAccess => "private"

/-- The visibility with a keyword. -/
def ofKeyword? : String → Option Visibility
  | "external" => some externalAccess
  | "public" => some publicAccess
  | "internal" => some internalAccess
  | "private" => some privateAccess
  | _ => none

/-- Whether other contracts may call the function. -/
def isOpen : Visibility → Bool
  | externalAccess | publicAccess => true
  | internalAccess | privateAccess => false

end Visibility

/-- What a function may do to the state and whether it takes payments. -/
inductive Mutability where
  | pure
  | view
  | nonpayable
  | payable
deriving DecidableEq, Inhabited

namespace Mutability

/-- The keyword. -/
def keyword : Mutability → String
  | pure => "pure"
  | view => "view"
  | nonpayable => "nonpayable"
  | payable => "payable"

/-- The mutability with a keyword. Compilers before 0.5 write `constant` for `view`. -/
def ofKeyword? : String → Option Mutability
  | "pure" => some pure
  | "view" | "constant" => some view
  | "nonpayable" => some nonpayable
  | "payable" => some payable
  | _ => none

/-- Whether a call may change the state. -/
def mutatesState : Mutability → Bool
  | pure | view => false
  | nonpayable | payable => true

end Mutability

/-! ## Identity of functions -/

/-- A function name with canonical parameter types. -/
structure Selector where
  name : String
  types : List String
deriving DecidableEq, Inhabited

namespace Selector

/-- The selector in the form `name(type,type)`. -/
def text (s : Selector) : String := s.name ++ "(" ++ ",".intercalate s.types ++ ")"

instance : Ord Selector := ⟨compareLex (compareOn name) (compareOn types)⟩

instance : Std.TransOrd Selector :=
  inferInstanceAs (Std.TransCmp (compareLex (compareOn name) (compareOn types)))

instance : Std.LawfulEqOrd Selector where
  eq_of_compare {a b} h := by
    obtain ⟨h₁, h₂⟩ := compareLex_eq_eq.1 h
    have e₁ : a.name = b.name := Std.LawfulEqOrd.eq_of_compare h₁
    have e₂ : a.types = b.types := Std.LawfulEqOrd.eq_of_compare h₂
    cases a; cases b; simp_all

end Selector

/-! ## Members -/

/-- A parameter of a function. Its name is for readers only. -/
structure Parameter where
  name : String
  type : String
deriving DecidableEq, Inhabited

/-- A function as callers see it. -/
structure FunctionShape where
  name : String
  parameters : List Parameter
  returns : List String
  visibility : Visibility
  mutability : Mutability
  modifiers : OrderedSet String
  /-- The contract that declares the function. -/
  declaredIn : String
deriving DecidableEq, Inhabited

namespace FunctionShape

/-- The types of the parameters. -/
def types (f : FunctionShape) : List String := f.parameters.map (·.type)

/-- The identity of the function. -/
def selector (f : FunctionShape) : Selector := ⟨f.name, f.types⟩

/-- The function in the form `name(types) returns (types)`. -/
def text (f : FunctionShape) : String :=
  if f.returns = [] then f.selector.text
  else f.selector.text ++ " returns (" ++ ",".intercalate f.returns ++ ")"

end FunctionShape

/-- A parameter of an event. -/
structure EventParameter where
  type : String
  indexed : Bool
deriving DecidableEq, Inhabited

namespace EventParameter

/-- The parameter in the form `type` or `type indexed`. -/
def text (p : EventParameter) : String := if p.indexed then p.type ++ " indexed" else p.type

end EventParameter

/-- An event. -/
structure EventShape where
  name : String
  parameters : List EventParameter
deriving DecidableEq, Inhabited

namespace EventShape

/-- The types of the parameters. -/
def types (e : EventShape) : List String := e.parameters.map (·.type)

/-- The identity of the event. -/
def selector (e : EventShape) : Selector := ⟨e.name, e.types⟩

/-- The event in the form `name(type indexed,type)`. -/
def text (e : EventShape) : String :=
  e.name ++ "(" ++ ",".intercalate (e.parameters.map EventParameter.text) ++ ")"

end EventShape

/-- A function modifier. -/
structure ModifierShape where
  name : String
  /-- Not declared in library code. -/
  userDefined : Bool
  declaredIn : String
deriving DecidableEq, Inhabited

/-! ## Bodies -/

/-- A condition in a body. -/
structure Guard where
  /-- The state variables that the condition reads and the functions that it calls. -/
  reads : OrderedSet String
  /-- Whether a write to the state is reached only past the condition. -/
  gatesWrite : Bool
deriving DecidableEq, Inhabited

/-- An event that a body emits. -/
structure Emission where
  event : String
  /-- The parameter types, if the declaration of the event is known. -/
  types : Option (List String)
deriving DecidableEq, Inhabited

/-- What is known of the body of one function. -/
structure BodyFacts where
  guards : List Guard
  emissions : List Emission
  calls : OrderedSet Selector
deriving DecidableEq, Inhabited

namespace BodyFacts

/-- What is known of a function without a body. -/
def empty : BodyFacts := ⟨[], [], .empty⟩

end BodyFacts

/-! ## Contracts -/

/-- A contract together with the members that it inherits. -/
structure FlatContract where
  name : String
  /-- `contract`, `interface` or `library`. -/
  kind : String
  sourcePath : String
  functions : List FunctionShape
  events : List EventShape
  modifiers : List ModifierShape
  facts : OrderedMap Selector BodyFacts
  warnings : List String
deriving DecidableEq, Inhabited

namespace FlatContract

/-- The modifier with a name. -/
def modifier? (c : FlatContract) (name : String) : Option ModifierShape :=
  c.modifiers.find? fun m => m.name = name

end FlatContract

end TokenConformance
