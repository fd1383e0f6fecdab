import TokenConformance.Contract.Shape

/-! # Templates

* `FunctionTemplate`, `EventTemplate`: the shapes that a standard asks for.
* `FunctionTemplate.find?`, `EventTemplate.find?`: the first member that has the shape.
* `FunctionTemplate.miss`, `EventTemplate.miss`: why no member has it, told of the nearest one.

Names and types are compared as they are; names of parameters do not matter. A template leaves
open what it does not state.
-/

namespace TokenConformance

/-- The shape of a required function. -/
structure FunctionTemplate where
  name : String
  types : List String
  returns : Option (List String)
  /-- Whether other contracts must be able to call it. -/
  openToCalls : Bool
  mutability : Option Mutability
deriving DecidableEq, Inhabited

namespace FunctionTemplate

/-- A function that other contracts can call. -/
def callable (name : String) (types returns : List String) : FunctionTemplate :=
  ⟨name, types, some returns, true, none⟩

/-- The template in the form `name(types) returns (types)`. -/
def text (t : FunctionTemplate) : String :=
  let call := t.name ++ "(" ++ ",".intercalate t.types ++ ")"
  match t.returns with
  | some (r :: rs) => call ++ " returns (" ++ ",".intercalate (r :: rs) ++ ")"
  | _ => call

/-! ## Matching -/

/-- Whether the results are as asked for. -/
def returnsMatch (t : FunctionTemplate) (f : FunctionShape) : Bool :=
  t.returns.all fun r => f.returns = r

/-- Whether the visibility is as asked for. -/
def visibilityMatches (t : FunctionTemplate) (f : FunctionShape) : Bool :=
  !t.openToCalls || f.visibility.isOpen

/-- Whether the mutability is as asked for. -/
def mutabilityMatches (t : FunctionTemplate) (f : FunctionShape) : Bool :=
  t.mutability.all fun m => f.mutability = m

/-- Whether a function has the shape. -/
def admits (t : FunctionTemplate) (f : FunctionShape) : Bool :=
  f.name = t.name && f.types = t.types && t.returnsMatch f && t.visibilityMatches f &&
    t.mutabilityMatches f

/-- The first function that has the shape. -/
def find? (t : FunctionTemplate) (fs : List FunctionShape) : Option FunctionShape :=
  fs.find? t.admits

/-- What keeps a function with the name and the types of the template from having its shape. -/
def mismatch (t : FunctionTemplate) (f : FunctionShape) : String :=
  if !t.visibilityMatches f then
    "`" ++ f.selector.text ++ "` is " ++ f.visibility.keyword ++ ", not externally callable"
  else if !t.returnsMatch f then
    "`" ++ f.selector.text ++ "` returns (" ++ ",".intercalate f.returns ++ ") instead of (" ++
      ",".intercalate (t.returns.getD []) ++ ")"
  else
    match t.mutability with
    | some m =>
      if f.mutability ≠ m then
        "`" ++ f.selector.text ++ "` is " ++ f.mutability.keyword ++ ", expected " ++ m.keyword
      else "not found"
    | none => "not found"

/-- Why no function has the shape. -/
def miss (t : FunctionTemplate) (fs : List FunctionShape) : String :=
  match fs.filter fun f => f.name = t.name with
  | [] => "not found"
  | first :: rest =>
    match (first :: rest).find? fun f => f.types = t.types with
    | none => "found `" ++ first.selector.text ++ "` with different parameter types"
    | some f => t.mismatch f

end FunctionTemplate

/-- The shape of a required event. -/
structure EventTemplate where
  name : String
  types : List String
  /-- Which parameters are indexed. -/
  indexed : Option (List Bool)
deriving DecidableEq, Inhabited

namespace EventTemplate

/-- The parameters as far as the template states them; flags that are missing count as false. -/
def parameters (t : EventTemplate) : List EventParameter :=
  t.types.zipIdx.map fun (type, i) => ⟨type, ((t.indexed.getD [])[i]?).getD false⟩

/-- The template in the form `name(type indexed,type)`. -/
def text (t : EventTemplate) : String :=
  t.name ++ "(" ++ ",".intercalate (t.parameters.map EventParameter.text) ++ ")"

/-! ## Matching -/

/-- Whether the right parameters are indexed. -/
def indexedMatch (t : EventTemplate) (e : EventShape) : Bool :=
  t.indexed.all fun flags => e.parameters.map (·.indexed) = flags

/-- Whether an event has the shape. -/
def admits (t : EventTemplate) (e : EventShape) : Bool :=
  e.name = t.name && e.types = t.types && t.indexedMatch e

/-- The first event that has the shape. -/
def find? (t : EventTemplate) (es : List EventShape) : Option EventShape := es.find? t.admits

/-- Why no event has the shape. -/
def miss (t : EventTemplate) (es : List EventShape) : String :=
  match es.filter fun e => e.name = t.name with
  | [] => "not found"
  | first :: rest =>
    match (first :: rest).find? fun e => e.types = t.types with
    | none => "found `" ++ first.text ++ "` with different parameter types"
    | some e => "`" ++ e.text ++ "` differs in indexed parameters"

end EventTemplate

end TokenConformance
