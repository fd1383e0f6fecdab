/-! # Command line arguments

* `Options`: what the arguments ask for in a check.
* `Invocation`: a check, or one of the two texts about the program.
* `UsageError`: what can be wrong with arguments.
* `parse`: reads the arguments from left to right. The first fault counts, and a request for one of
  the two texts counts as soon as it is reached.

An argument that starts with a hyphen is an option, a single hyphen apart; after two hyphens
everything is positional. Only the arguments for the compiler may start with a hyphen themselves.
-/

namespace TokenConformance.CommandLine

/-- The form of the output. -/
inductive Format where
  | json
  | text
deriving DecidableEq, Inhabited

/-- What the arguments ask for in a check. -/
structure Options where
  source : String
  contract : String
  standard : String
  format : Format
  out : Option String
  compiler : Option String
  compilerArguments : List String
  libraryPrefixes : List String
  commit : Option String
  verbosity : Nat
deriving DecidableEq, Inhabited

/-- What the arguments ask for. -/
inductive Invocation where
  | version
  | help
  | check (options : Options)
deriving DecidableEq, Inhabited

/-- What is wrong with the arguments. -/
inductive UsageError where
  | unknownOption (argument : String)
  | unexpectedValue (argument : String)
  | missingValue (option : String)
  | invalidValue (option value : String)
  | repeated (option : String)
  | tooManyArguments (argument : String)
  | missingArguments
deriving DecidableEq, Inhabited

/-- The text of the error. -/
def UsageError.message : UsageError → String
  | unknownOption argument => "unexpected argument '" ++ argument ++ "' found"
  | unexpectedValue argument => "unexpected value in '" ++ argument ++ "'"
  | missingValue option => "a value is required for '" ++ option ++ "'"
  | invalidValue option value => "invalid value '" ++ value ++ "' for '" ++ option ++ "'"
  | repeated option => "the argument '" ++ option ++ "' cannot be used multiple times"
  | tooManyArguments argument => "unexpected argument '" ++ argument ++ "' found"
  | missingArguments => "the required arguments were not provided"

/-! ## Options with a value -/

/-- An option that takes a value. -/
inductive ValueOption where
  | standard
  | format
  | out
  | compiler
  | compilerArgument
  | libraryPrefix
  | commit
deriving DecidableEq, Inhabited

namespace ValueOption

/-- How the option is written. -/
def flag : ValueOption → String
  | standard => "--standard"
  | format => "--format"
  | out => "--out"
  | compiler => "--solc"
  | compilerArgument => "--solc-arg"
  | libraryPrefix => "--library-prefix"
  | commit => "--commit"

/-- All of them. -/
def all : List ValueOption :=
  [standard, format, out, compiler, compilerArgument, libraryPrefix, commit]

/-- The option that is written in some way. -/
def ofFlag? (s : String) : Option ValueOption := all.find? fun o => o.flag = s

/-- Whether the option may be given more than once. -/
def isRepeatable : ValueOption → Bool
  | compilerArgument | libraryPrefix => true
  | _ => false

/-- Whether a value may start with a hyphen. -/
def admitsHyphen (o : ValueOption) : Bool := o = compilerArgument

/-- Whether a value is acceptable. Paths are not empty, and formats are known. -/
def admits (value : String) : ValueOption → Bool
  | out | compiler => value ≠ ""
  | format => value = "json" || value = "text"
  | _ => true

end ValueOption

/-! ## Reading -/

/-- What has been read so far. -/
structure Parsed where
  positional : List String
  values : List (ValueOption × String)
  verbosity : Nat
deriving DecidableEq, Inhabited

namespace Parsed

/-- Nothing. -/
def empty : Parsed := ⟨[], [], 0⟩

/-- The values of an option in the order in which they were given. -/
def valuesOf (p : Parsed) (o : ValueOption) : List String :=
  (p.values.filter fun v => v.1 = o).map (·.2)

/-- Takes a value of an option. -/
def addValue (p : Parsed) (o : ValueOption) (value : String) : Except UsageError Parsed :=
  if !o.admits value then .error (.invalidValue o.flag value)
  else if !o.isRepeatable && !(p.valuesOf o).isEmpty then .error (.repeated o.flag)
  else .ok { p with values := p.values ++ [(o, value)] }

/-- Takes a positional argument: first the path of the source, then the name of the contract. -/
def addPositional (p : Parsed) (value : String) : Except UsageError Parsed :=
  match p.positional with
  | [] =>
    if value = "" then .error (.invalidValue "<SOURCE>" value)
    else .ok { p with positional := [value] }
  | [source] => .ok { p with positional := [source, value] }
  | _ => .error (.tooManyArguments value)

/-- Takes one more request for messages. -/
def addVerbosity (p : Parsed) : Parsed := { p with verbosity := p.verbosity + 1 }

/-- The form of the output. -/
def format (p : Parsed) : Format :=
  if p.valuesOf .format = ["json"] then .json else .text

/-- The check that is asked for once all arguments have been read. -/
def finish (p : Parsed) : Except UsageError Invocation :=
  match p.positional with
  | [source, contract] =>
    .ok (.check {
      source
      contract
      standard := (p.valuesOf .standard).head?.getD "erc20"
      format := p.format
      out := (p.valuesOf .out).head?
      compiler := (p.valuesOf .compiler).head?
      compilerArguments := p.valuesOf .compilerArgument
      libraryPrefixes := p.valuesOf .libraryPrefix
      commit := (p.valuesOf .commit).head?
      verbosity := p.verbosity })
  | _ => .error .missingArguments

end Parsed

/-- Takes joined short options. A request for a text ends the reading. -/
def readShort (argument : String) (p : Parsed) :
    List Char → Except UsageError (Parsed ⊕ Invocation)
  | [] => .ok (.inl p)
  | 'v' :: rest => readShort argument p.addVerbosity rest
  | 'V' :: _ => .ok (.inr .version)
  | 'h' :: _ => .ok (.inr .help)
  | _ :: _ => .error (.unknownOption argument)

/-- A long option with the value that may be joined to it. -/
def splitLong (argument : List Char) : String × Option String :=
  let name := String.ofList (argument.takeWhile (· ≠ '='))
  match argument.dropWhile (· ≠ '=') with
  | [] => (name, none)
  | _ :: value => (name, some (String.ofList value))

/-- Whether an argument is an option. -/
def isOption (argument : String) : Bool :=
  match argument.toList with
  | '-' :: _ :: _ => true
  | _ => false

/-- Reads the arguments after those that have been read. -/
def parseAfter (p : Parsed) : List String → Except UsageError Invocation
  | [] => p.finish
  | argument :: rest =>
    match argument.toList with
    | ['-', '-'] => do (← rest.foldlM Parsed.addPositional p).finish
    | '-' :: '-' :: _ =>
      let (name, joined) := splitLong argument.toList
      match ValueOption.ofFlag? name, joined with
      | some o, some value => do parseAfter (← p.addValue o value) rest
      | some o, none =>
        match rest with
        | [] => .error (.missingValue name)
        | value :: rest =>
          if isOption value && !o.admitsHyphen then .error (.missingValue name)
          else do parseAfter (← p.addValue o value) rest
      | none, some _ =>
        .error (if name ∈ ["--verbose", "--version", "--help"] then .unexpectedValue argument
          else .unknownOption argument)
      | none, none =>
        if name = "--verbose" then parseAfter p.addVerbosity rest
        else if name = "--version" then .ok .version
        else if name = "--help" then .ok .help
        else .error (.unknownOption argument)
    | '-' :: c :: cs =>
      match readShort argument p (c :: cs) with
      | .error e => .error e
      | .ok (.inl p) => parseAfter p rest
      | .ok (.inr invocation) => .ok invocation
    | _ => do parseAfter (← p.addPositional argument) rest

/-- Reads the arguments. -/
def parse (arguments : List String) : Except UsageError Invocation :=
  parseAfter .empty arguments

end TokenConformance.CommandLine
