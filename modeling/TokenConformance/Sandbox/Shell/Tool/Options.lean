import TokenConformance.Sandbox.Text.Bytes

/-! # Options of programs

* `OptionForm`: an option that a program knows; `flag`, `valued` and the others make them.
* `Given`: the options and operands among arguments.
* `Given.ofArguments`: reads them. Options may stand between operands; a long name may be cut short
  as long as it is clear what it means.
-/

namespace TokenConformance.Sandbox.Shell.Tool

open Sandbox.Text (Bytes)

/-- Whether an option takes a value. -/
inductive Taking where
  | nothing
  | value
  /-- A value may be given in the same argument. -/
  | maybe
deriving DecidableEq, Inhabited

/-- An option that a program knows. -/
structure OptionForm where
  letter : Option Char
  /-- The long name; some options have none. -/
  name : String
  taking : Taking
deriving DecidableEq, Inhabited

/-- What an option is called: its letter, or its name if it has none. -/
def OptionForm.key (o : OptionForm) : String :=
  match o.letter with
  | some c => String.singleton c
  | none => o.name

/-- An option without a value. -/
def flag (letter : Char) (name : String) : OptionForm := ⟨some letter, name, .nothing⟩

/-- An option with a value. -/
def valued (letter : Char) (name : String) : OptionForm := ⟨some letter, name, .value⟩

/-- An option that may have a value. -/
def variant (letter : Char) (name : String) : OptionForm := ⟨some letter, name, .maybe⟩

/-- An option without a letter and without a value. -/
def longFlag (name : String) : OptionForm := ⟨none, name, .nothing⟩

/-- An option without a letter that has a value. -/
def longValued (name : String) : OptionForm := ⟨none, name, .value⟩

/-- An option without a letter that may have a value. -/
def longVariant (name : String) : OptionForm := ⟨none, name, .maybe⟩

/-- Options that have only letters and no values. -/
def letters (cs : String) : List OptionForm := cs.toList.map fun c => ⟨some c, "", .nothing⟩

/-- The options and operands among arguments. -/
structure Given where
  options : List (String × Bytes)
  operands : List Bytes
  /-- What is wrong with the options. -/
  fault : Option Bytes
deriving DecidableEq, Inhabited

namespace Given

/-- Whether an option is given. -/
def has (g : Given) (key : String) : Bool := g.options.any (·.1 = key)

/-- The last value of an option. -/
def value? (g : Given) (key : String) : Option Bytes :=
  (g.options.reverse.find? (·.1 = key)).map (·.2)

/-- All values of an option. -/
def values (g : Given) (key : String) : List Bytes :=
  g.options.filterMap fun o => if o.1 = key then some o.2 else none

/-- The last one of some options that is given. -/
def lastOf? (g : Given) (keys : List String) : Option String :=
  (g.options.reverse.find? fun o => keys.contains o.1).map (·.1)

/-- The arguments with one more option. -/
def withOption (g : Given) (key : String) (value : Bytes) : Given :=
  { g with options := (key, value) :: g.options }

/-- A fault of an option with a letter. -/
def letterFault (text : String) (c : Char) : Given :=
  ⟨[], [], some (text.toList ++ " -- '".toList ++ [c, '\''])⟩

/-- A fault of an option with a long name. -/
def nameFault (name : Bytes) (text : String) : Given :=
  ⟨[], [], some ("option '--".toList ++ name ++ "' ".toList ++ text.toList)⟩

/-- The options that a long name, which may be cut short, can mean. -/
def candidates (forms : List OptionForm) (name : Bytes) : List OptionForm :=
  let named := forms.filter fun o => o.name ≠ ""
  match named.find? fun o => o.name.toList = name with
  | some o => [o]
  | none => named.filter fun o => name.isPrefixOf o.name.toList

/-- Reads the letters of an argument; the first one has a hyphen before it. `next` reads what follows
when the letters are read, and gets the arguments after this one. -/
def ofLetters (forms : List OptionForm) (next : List Bytes → Given) (after : List Bytes) :
    Bytes → Given
  | [] => next after
  | c :: cs =>
    match forms.find? fun o => o.letter = some c with
    | none => letterFault "invalid option" c
    | some o =>
      match o.taking, cs, after with
      | .nothing, _, _ => (ofLetters forms next after cs).withOption o.key []
      | .maybe, _, _ => (next after).withOption o.key cs
      | .value, [], [] => letterFault "option requires an argument" c
      | .value, [], value :: after => (next after).withOption o.key value
      | .value, _, _ => (next after).withOption o.key cs

/-- Reads an argument with a long name, without its hyphens. -/
def ofName (forms : List OptionForm) (next : List Bytes → Given) (after : List Bytes)
    (text : Bytes) : Given :=
  let name := text.takeWhile (· ≠ '=')
  let value? := (text.drop name.length).tail?
  match candidates forms name with
  | [] => ⟨[], [], some ("unrecognized option '--".toList ++ text ++ ['\''])⟩
  | o :: others =>
    if others.any fun p => p.key ≠ o.key then
      let possible := (o :: others).flatMap fun p => " '--".toList ++ p.name.toList ++ ['\'']
      nameFault name ("is ambiguous; possibilities:" ++ String.ofList possible)
    else
      match o.taking, value?, after with
      | .nothing, some _, _ => nameFault o.name.toList "doesn't allow an argument"
      | .value, none, [] => nameFault o.name.toList "requires an argument"
      | .value, none, value :: after => (next after).withOption o.key value
      | _, _, _ => (next after).withOption o.key (value?.getD [])

/-- Reads arguments. Operands end the options if that is said. The number bounds how many arguments
there are. -/
def ofArguments (forms : List OptionForm) (endsAtOperand : Bool) : Nat → List Bytes → Given
  | 0, arguments => ⟨[], arguments, none⟩
  | _, [] => ⟨[], [], none⟩
  | n + 1, argument :: after =>
    let next := ofArguments forms endsAtOperand n
    match argument with
    | ['-', '-'] => ⟨[], after, none⟩
    | '-' :: '-' :: text => ofName forms next after text
    | '-' :: c :: cs => ofLetters forms next after (c :: cs)
    | _ =>
      if endsAtOperand then ⟨[], argument :: after, none⟩
      else
        let g := next after
        { g with operands := argument :: g.operands }

end Given

end TokenConformance.Sandbox.Shell.Tool
