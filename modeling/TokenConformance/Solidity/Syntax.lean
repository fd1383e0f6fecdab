/-! # Syntax trees

The part of a syntax tree that the analysis looks at. Every other kind of node is `other`.

* `Expression`, `Statement`: function bodies.
* `TypeDescriptions`, `TypeName`, `VariableDeclaration`, `ParameterList`: types and variables.
* `ModifierInvocation`, `FunctionDefinition`, `EventDefinition`, `ModifierDefinition`,
  `ContractMember`: what contracts are made of.
* `ContractDefinition`, `SourceMember`, `SourceUnit`: source files.
-/

namespace TokenConformance.Solidity

/-- The number by which a tree refers to a declaration. -/
abbrev NodeId := Int

/-! ## Bodies -/

/-- An expression. -/
inductive Expression where
  | identifier (name : String) (declaration : Option NodeId)
  | member (object : Expression) (name : String) (declaration : Option NodeId)
  | index (base : Expression) (subscript : Option Expression)
  | call (callee : Expression) (arguments : List Expression)
  | withOptions (callee : Expression)
  | binary (left right : Expression)
  | unary (operator : String) (operand : Expression)
  | assign (target value : Expression)
  | conditional (condition whenTrue whenFalse : Expression)
  | tuple (components : List (Option Expression))
  | other
deriving Inhabited

/-- A statement. -/
inductive Statement where
  | block (statements : List Statement)
  | unchecked (statements : List Statement)
  | expression (value : Expression)
  | branch (condition : Expression) (whenTrue : Statement) (whenFalse : Option Statement)
  | declaration (initial : Option Expression)
  | ret (value : Option Expression)
  | emit (event : Expression)
  | revert (error : Expression)
  | forLoop (initial : Option Statement) (condition : Option Expression)
      (step : Option Statement) (body : Statement)
  | whileLoop (condition : Expression) (body : Statement)
  | doWhileLoop (condition : Expression) (body : Statement)
  | other
deriving Inhabited

/-! ## Types and variables -/

/-- What the compiler says about a type. -/
structure TypeDescriptions where
  typeString : Option String := none
deriving DecidableEq, Inhabited

/-- A type as it is written. Only mappings and arrays have parts. -/
structure TypeName where
  nodeType : String
  descriptions : TypeDescriptions
  key : Option TypeName
  value : Option TypeName
  base : Option TypeName
deriving Inhabited

/-- A state variable or a parameter. -/
structure VariableDeclaration where
  id : NodeId
  name : String
  descriptions : TypeDescriptions
  typeName : Option TypeName
  stateVariable : Bool
  visibility : String
  indexed : Bool
  constant : Bool
deriving Inhabited

/-- The parameters of a function or an event. -/
abbrev ParameterList := List VariableDeclaration

/-! ## Members of contracts -/

/-- A modifier or a base constructor that a function definition names. -/
structure ModifierInvocation where
  /-- The path as it is written. -/
  path : String
  declaration : Option NodeId
  kind : Option String
deriving DecidableEq, Inhabited

/-- A function, a constructor or a function of another kind. -/
structure FunctionDefinition where
  id : NodeId
  name : String
  kind : String
  visibility : String
  mutability : String
  parameters : ParameterList
  returns : ParameterList
  modifiers : List ModifierInvocation
  body : Option (List Statement)
deriving Inhabited

/-- An event. -/
structure EventDefinition where
  id : NodeId
  name : String
  parameters : ParameterList
deriving Inhabited

/-- A modifier. -/
structure ModifierDefinition where
  id : NodeId
  name : String
deriving DecidableEq, Inhabited

/-- A member of a contract. -/
inductive ContractMember where
  | function (definition : FunctionDefinition)
  | event (definition : EventDefinition)
  | modifier (definition : ModifierDefinition)
  | variable (declaration : VariableDeclaration)
  | other
deriving Inhabited

/-! ## Source files -/

/-- A contract, an interface or a library. -/
structure ContractDefinition where
  id : NodeId
  name : String
  kind : String
  isAbstract : Bool
  /-- The contract itself and its bases, the most derived one first. -/
  linearizedBases : List NodeId
  members : List ContractMember
deriving Inhabited

/-- A member of a source file. -/
inductive SourceMember where
  | contract (definition : ContractDefinition)
  | other
deriving Inhabited

/-- A source file. -/
structure SourceUnit where
  path : String
  members : List SourceMember
deriving Inhabited

end TokenConformance.Solidity
