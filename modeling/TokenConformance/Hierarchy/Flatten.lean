import TokenConformance.Contract.Order
import TokenConformance.Body.Facts
import TokenConformance.Hierarchy.Callable

/-! # A contract with everything that it inherits

Of the members with one identity the first one counts, and the most derived contract comes first;
so an override hides what it overrides.

* `firstBy`: the first element for every key.
* `stateVariables`, `events`, `modifiers`, `declaredCallables`: the members of a hierarchy by kind.
* `scope`: what names and references mean in the bodies of the hierarchy.
* `warnings`: what the compiler output leaves open.
* `flatten`: the contract that rules are checked against.
-/

namespace TokenConformance.Hierarchy

open Solidity Body

/-- The first element for every key. -/
def firstBy {α κ : Type} [DecidableEq κ] (key : α → κ) : List α → List α
  | [] => []
  | a :: rest => a :: (firstBy key rest).filter fun b => key b ≠ key a

/-! ## Members by kind -/

/-- The state variables. -/
def stateVariables (ms : List LocatedMember) : List VariableDeclaration :=
  ms.filterMap fun
    | (_, .variable v) => some v
    | _ => none

/-- An event as rules see it. -/
def eventShape (e : EventDefinition) : EventShape :=
  ⟨e.name, e.parameters.map fun p => ⟨declaredType p, p.indexed⟩⟩

/-- The events. -/
def events (ms : List LocatedMember) : List EventDefinition :=
  ms.filterMap fun
    | (_, .event e) => some e
    | _ => none

/-- The modifiers with the contracts that declare them. -/
def modifiers (ms : List LocatedMember) : List (Located × ModifierDefinition) :=
  ms.filterMap fun
    | (c, .modifier m) => some (c, m)
    | _ => none

/-- The name of every modifier by its number. -/
def modifierNames (ms : List LocatedMember) : OrderedMap NodeId String :=
  .ofList ((modifiers ms).map fun (_, m) => (m.id, m.name))

/-- A modifier as rules see it. -/
def modifierShape (libraryPrefixes : List String) (c : Located) (m : ModifierDefinition) :
    ModifierShape :=
  ⟨m.name, !isLibraryPath libraryPrefixes c.path, c.contract.name⟩

/-- The members that can be called, with the contracts that declare them. -/
def declaredCallables (ms : List LocatedMember) : List (Located × Callable) :=
  ms.filterMap fun (c, m) => (callable? m).map (c, ·)

/-- A member that can be called, together with its shape. -/
structure ShapedCallable where
  callable : Callable
  shape : FunctionShape
deriving Inhabited

/-- The members that can be called with their shapes, unless one of them is malformed. -/
def shapedCallables (ms : List LocatedMember) : Except SourceFailure (List ShapedCallable) :=
  (declaredCallables ms).mapM fun (c, callable) => do
    return ⟨callable, ← callable.shape (modifierNames ms) c.contract.name⟩

/-! ## Bodies -/

namespace ShapedCallable

/-- What calls need to know of the member. -/
def callee (s : ShapedCallable) : Callee := ⟨s.shape.selector, s.shape.mutability⟩

/-- The function definition with what calls need to know of it; getters have none. -/
def function? (s : ShapedCallable) : Option (FunctionDefinition × Callee) :=
  match s.callable with
  | .function d => some (d, s.callee)
  | .getter _ => none

/-- The facts of the body. A getter has none. -/
def facts (scope : Scope) (s : ShapedCallable) : BodyFacts :=
  match s.callable with
  | .function d => bodyFacts scope d.body
  | .getter _ => .empty

end ShapedCallable

/-- What names and references mean in the bodies of a hierarchy. A number may refer to a member
that is overridden; a name means what is not. -/
def scope (ms : List LocatedMember) (callables : List ShapedCallable) : Scope where
  stateVariables := .ofList ((stateVariables ms).map fun v => (v.id, v.name))
  stateVariableNames := .ofList ((stateVariables ms).map (·.name))
  functions := .ofList ((callables.filterMap (·.function?)).map fun (d, c) => (d.id, c))
  functionsNamed :=
    .ofGroups (((firstBy (·.shape.selector) callables).filterMap (·.function?)).map
      fun (_, c) => (c.selector.name, c))
  events := .ofList ((events ms).map fun e => (e.id, eventShape e))
  eventsNamed :=
    .ofList ((firstBy (·.name) ((events ms).map eventShape)).map fun e => (e.name, e))

/-! ## The contract -/

/-- What the compiler output leaves open, in increasing order. -/
def warnings (c : ContractDefinition) (missing : List NodeId) (functions : List FunctionShape)
    (modifiers : List ModifierShape) : List String :=
  let bases := missing.map fun id =>
    "base contract #" ++ toString id ++ " is missing from compiler output"
  let undeclared := functions.flatMap fun f =>
    (f.modifiers.toList.filter fun m => !modifiers.any fun d => d.name = m).map fun m =>
      "modifier `" ++ m ++ "` on `" ++ f.selector.text ++ "` is not declared in the hierarchy"
  let bodiless :=
    if c.kind = "interface" then ["`" ++ c.name ++ "` is an interface; function bodies are absent"]
    else []
  let empty := if functions = [] then ["`" ++ c.name ++ "` declares no functions"] else []
  (OrderedSet.ofList (bases ++ undeclared ++ bodiless ++ empty)).toList

/-- The contract that rules are checked against. -/
def flatten (units : List SourceUnit) (name sourcePath : String) (libraryPrefixes : List String) :
    Except SourceFailure FlatContract := do
  let target ← target units name sourcePath
  let ms := members (ancestry units target.contract)
  let callables ← shapedCallables ms
  let scope := scope ms callables
  let visible := firstBy (·.shape.selector) callables
  let functions := visible.map (·.shape)
  let modifiers :=
    firstBy (·.name) ((modifiers ms).map fun (c, m) => modifierShape libraryPrefixes c m)
  return {
    name := target.contract.name
    kind := target.contract.kind
    sourcePath := target.path
    functions := sortFunctions functions
    events := sortEvents (firstBy (·.selector) ((events ms).map eventShape))
    modifiers := sortModifiers modifiers
    facts := .ofList (visible.map fun s => (s.shape.selector, s.facts scope))
    warnings := warnings target.contract (missingBases units target.contract) functions modifiers }

end TokenConformance.Hierarchy
