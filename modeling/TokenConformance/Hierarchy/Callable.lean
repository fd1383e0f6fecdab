import TokenConformance.Contract.Shape
import TokenConformance.Hierarchy.Lineage
import TokenConformance.Solidity.CanonicalType

/-! # Members that can be called

* `Callable`: a function, or a public state variable with the getter that the compiler adds.
* `modifierName`: what an applied modifier is called.
* `functionShape`: a function as rules see it, or the attribute that is unknown.
* `getterShape`: the getter of a state variable, with a parameter for every mapping key and array
  index and the innermost type as its result.
-/

namespace TokenConformance.Hierarchy

open Solidity

/-- A member that can be called. -/
inductive Callable where
  | function (definition : FunctionDefinition)
  | getter (declaration : VariableDeclaration)
deriving Inhabited

/-- The member as something that can be called. -/
def callable? : ContractMember → Option Callable
  | .function d => if d.kind = "function" then some (.function d) else none
  | .variable v => if v.visibility = "public" then some (.getter v) else none
  | _ => none

/-! ## Functions -/

/-- The canonical type that a description gives, empty if it gives none. -/
def describedType (d : TypeDescriptions) : String := (d.typeString.map canonicalType).getD ""

/-- The canonical type of a variable or parameter. -/
def declaredType (v : VariableDeclaration) : String := describedType v.descriptions

/-- What follows the last dot. -/
def lastSegment (path : String) : String :=
  String.ofList (path.toList.reverse.takeWhile (· ≠ '.')).reverse

/-- The name of an applied modifier: of the declaration that is referred to, or else the last part
of the path that is written. -/
def modifierName (names : OrderedMap NodeId String) (m : ModifierInvocation) : String :=
  (m.declaration.bind names.find?).getD (lastSegment m.path)

/-- The names of the modifiers that a function applies. Base constructors are none. -/
def appliedModifiers (names : OrderedMap NodeId String) (d : FunctionDefinition) : List String :=
  (d.modifiers.filter fun m => m.kind ≠ some "baseConstructorSpecifier").map (modifierName names)

/-- The visibility of a function that a contract declares. -/
def visibility (declaredIn : String) (d : FunctionDefinition) : Except SourceFailure Visibility :=
  match Visibility.ofKeyword? d.visibility with
  | some v => .ok v
  | none =>
    .error (.malformedTree declaredIn
      ("function `" ++ d.name ++ "` has visibility `" ++ d.visibility ++ "`"))

/-- The mutability of a function that a contract declares. -/
def mutability (declaredIn : String) (d : FunctionDefinition) : Except SourceFailure Mutability :=
  match Mutability.ofKeyword? d.mutability with
  | some m => .ok m
  | none =>
    .error (.malformedTree declaredIn
      ("function `" ++ d.name ++ "` has state mutability `" ++ d.mutability ++ "`"))

/-- A function as rules see it. -/
def functionShape (names : OrderedMap NodeId String) (declaredIn : String)
    (d : FunctionDefinition) : Except SourceFailure FunctionShape := do
  let visibility ← visibility declaredIn d
  let mutability ← mutability declaredIn d
  return {
    name := d.name
    parameters := d.parameters.map fun p => ⟨p.name, declaredType p⟩
    returns := d.returns.map declaredType
    visibility
    mutability
    modifiers := .ofList (appliedModifiers names d)
    declaredIn }

/-! ## Getters -/

mutual

/-- The parameter types of a getter, and the innermost type if it is known. -/
def getterTypes : TypeName → List String × Option String
  | { nodeType, descriptions, key, value, base } =>
    if nodeType = "Mapping" then
      let (parameters, result) := getterTypesOf value
      ((key.map fun k => describedType k.descriptions).getD "" :: parameters, result)
    else if nodeType = "ArrayTypeName" then
      let (parameters, result) := getterTypesOf base
      ("uint256" :: parameters, result)
    else ([], descriptions.typeString.map canonicalType)

/-- The same for a type that may be missing. -/
def getterTypesOf : Option TypeName → List String × Option String
  | none => ([], none)
  | some t => getterTypes t

end

/-- The getter of a state variable. -/
def getterShape (declaredIn : String) (v : VariableDeclaration) : FunctionShape :=
  let (parameters, result) := getterTypesOf v.typeName
  { name := v.name
    parameters := parameters.map (⟨"", ·⟩)
    returns := [result.getD (declaredType v)]
    visibility := .publicAccess
    mutability := .view
    modifiers := .empty
    declaredIn }

/-- A member that can be called, as rules see it. -/
def Callable.shape (names : OrderedMap NodeId String) (declaredIn : String) :
    Callable → Except SourceFailure FunctionShape
  | .function d => functionShape names declaredIn d
  | .getter v => .ok (getterShape declaredIn v)

end TokenConformance.Hierarchy
