import TokenConformance.Sandbox.Shell.Tool.Basic
import TokenConformance.Sandbox.Text.CharSet

/-! # A program that reads options for scripts

* `knownLetters`, `knownNames`: the options that a script knows.
* `Reading`: the options and operands that have been found.
* `getopt`: writes the arguments of a script in a form that is easy to read.
-/

namespace TokenConformance.Sandbox.Shell.Tool

open Sandbox.Text (Bytes)

/-- How a script wants its arguments read. -/
inductive ArgumentOrder where
  | permuted
  /-- Operands end the options. -/
  | strict
  /-- Operands stay where they are. -/
  | kept
deriving DecidableEq, Inhabited

/-- The options that letters name. A colon says that the letter before it takes a value, two colons that
it may take one. -/
def knownLetters : Bytes → List OptionForm
  | c :: ':' :: ':' :: rest => ⟨some c, "", .maybe⟩ :: knownLetters rest
  | c :: ':' :: rest => ⟨some c, "", .value⟩ :: knownLetters rest
  | c :: rest => ⟨some c, "", .nothing⟩ :: knownLetters rest
  | [] => []

/-- The options that long names name, with commas or blanks between them. -/
def knownNames (text : Bytes) : Except Bytes (List OptionForm) :=
  let isBetween (c : Char) : Bool := c = ',' || c = ' ' || c = '\t' || c = '\n'
  let words := ((text.map fun c => if isBetween c then ',' else c).splitOn ',').filter (· ≠ [])
  words.mapM fun w =>
    let name := (w.reverse.dropWhile (· = ':')).reverse
    let taking : Taking :=
      match w.length - name.length with
      | 0 => .nothing
      | 1 => .value
      | _ => .maybe
    if name = [] then .error "empty long option after -l or --long argument".toList
    else .ok ⟨none, String.ofList name, taking⟩

/-- How arguments are read and written. -/
structure ArgumentStyle where
  name : Bytes
  forms : List OptionForm
  order : ArgumentOrder
  isQuoted : Bool
  /-- Whether quotes are those of another kind of shell. -/
  isForeign : Bool
  /-- Whether one hyphen is enough for a long name. -/
  isAlternative : Bool
deriving Inhabited

namespace ArgumentStyle

/-- An argument as it is written. -/
def written (s : ArgumentStyle) (text : Bytes) : Bytes :=
  if !s.isQuoted then text
  else
    let inner := text.flatMap fun c =>
      if c = '\'' then "'\\''".toList
      else if s.isForeign && c = '\\' then "\\\\".toList
      else if s.isForeign && c = '!' then "'\\!'".toList
      else if s.isForeign && c = '\n' then "\\n".toList
      else if s.isForeign && Text.isSpace c then "'\\".toList ++ [c, '\'']
      else [c]
    '\'' :: inner ++ ['\'']

end ArgumentStyle

/-- The options and operands that have been found, the last one first, and what is wrong. -/
structure ArgumentReading where
  options : List Bytes
  operands : List Bytes
  faults : List Bytes
deriving Inhabited

namespace ArgumentReading

/-- One more option, which may have a value. -/
def add (r : ArgumentReading) (s : ArgumentStyle) (option : Bytes) (value : Option Bytes) :
    ArgumentReading :=
  let text := ' ' :: option
  let text := match value with
    | some v => text ++ ' ' :: s.written v
    | none => text
  { r with options := text :: r.options }

/-- One more fault. -/
def fail (r : ArgumentReading) (fault : Bytes) : ArgumentReading :=
  { r with faults := fault :: r.faults }

/-- Reads the letters of an argument. The second result tells whether the next argument is the value
of the last letter. -/
def letters (s : ArgumentStyle) (next : Option Bytes) :
    Bytes → ArgumentReading → ArgumentReading × Bool
  | [], r => (r, false)
  | c :: cs, r =>
    match s.forms.find? fun o => o.letter = some c with
    | none => letters s next cs (r.fail (filled "invalid option -- '%'" [[c]]))
    | some o =>
      match o.taking, cs, next with
      | .nothing, _, _ => letters s next cs (r.add s ['-', c] none)
      | .maybe, _, _ => (r.add s ['-', c] (some cs), false)
      | .value, [], some value => (r.add s ['-', c] (some value), true)
      | .value, [], none => (r.fail (filled "option requires an argument -- '%'" [[c]]), false)
      | .value, _, _ => (r.add s ['-', c] (some cs), false)

/-- Reads an argument with a long name. The second result tells whether the next argument is its
value. -/
def name (s : ArgumentStyle) (next : Option Bytes) (hyphens text : Bytes) (r : ArgumentReading) :
    ArgumentReading × Bool :=
  let name := text.takeWhile (· ≠ '=')
  let value? := (text.drop name.length).tail?
  match Given.candidates s.forms name with
  | [] => (r.fail (filled "unrecognized option '%'" [hyphens ++ text]), false)
  | o :: others =>
    let long := "--".toList ++ o.name.toList
    if others ≠ [] then
      let possible := (o :: others).flatMap fun p => " '--".toList ++ p.name.toList ++ ['\'']
      (r.fail (filled "option '%' is ambiguous; possibilities:%" [hyphens ++ text, possible]), false)
    else
      match o.taking, value?, next with
      | .nothing, some _, _ =>
        (r.fail (filled "option '%' doesn't allow an argument"
          [if hyphens.length = 2 then long else hyphens ++ o.name.toList]), false)
      | .nothing, none, _ => (r.add s long none, false)
      | .value, none, none =>
        (r.fail (filled "option '%' requires an argument"
          [if hyphens.length = 2 then long else hyphens ++ o.name.toList]), false)
      | .value, none, some value => (r.add s long (some value), true)
      | .maybe, none, _ => (r.add s long (some []), false)
      | _, some value, _ => (r.add s long (some value), false)

/-- Reads arguments. The number bounds how many there are. -/
def arguments (s : ArgumentStyle) : Nat → List Bytes → ArgumentReading → ArgumentReading
  | 0, _, r => r
  | _, [], r => r
  | n + 1, a :: rest, r =>
    let goOn (found : ArgumentReading × Bool) : ArgumentReading :=
      arguments s n (if found.2 then rest.drop 1 else rest) found.1
    match a with
    | ['-', '-'] => { r with operands := rest.reverse ++ r.operands }
    | '-' :: '-' :: text => goOn (name s rest.head? ['-', '-'] text r)
    | '-' :: c :: cs =>
      let isName := s.isAlternative &&
        (cs ≠ [] || s.forms.all fun o => o.letter ≠ some c) &&
        Given.candidates s.forms ((c :: cs).takeWhile (· ≠ '=')) ≠ []
      if isName then goOn (name s rest.head? ['-'] (c :: cs) r)
      else goOn (letters s rest.head? (c :: cs) r)
    | _ =>
      match s.order with
      | .strict => { r with operands := (a :: rest).reverse ++ r.operands }
      | .permuted => arguments s n rest { r with operands := a :: r.operands }
      | .kept => arguments s n rest { r with options := (' ' :: s.written a) :: r.options }

end ArgumentReading

/-- The kinds of shells for which arguments can be written, and whether they need other quotes. -/
def shellKinds : List (String × Bool) :=
  [("sh", false), ("bash", false), ("csh", true), ("tcsh", true)]

/-- Writes the arguments of a script in a form that is easy to read. -/
def getopt : Tool := fun c => do
  let write (s : ArgumentStyle) (isQuiet isSilent : Bool) (arguments : List Bytes) : Action Nat := do
    let r := ArgumentReading.arguments s (arguments.length + 1) arguments ⟨[], [], []⟩
    if !isQuiet then
      for fault in r.faults.reverse do
        complain (s.name ++ ": ".toList ++ fault)
    if !isSilent then
      let operands := r.operands.reverse.flatMap fun a => ' ' :: s.written a
      print (r.options.reverse.flatten ++ " --".toList ++ operands ++ ['\n'])
    return Call.statusOf (r.faults = [])
  match c.arguments with
  | first :: rest =>
    if first.head? ≠ some '-' then
      let letters := first.dropWhile fun d => d = '+' || d = '-'
      let isSilent := letters.head? = some ':'
      let forms := knownLetters (if isSilent then letters.drop 1 else letters)
      return ← write ⟨c.name, forms, .permuted, false, false, false⟩ isSilent false rest
  | [] => pure ()
  c.withOptionsUpTo true 2
    [flag 'a' "alternative", flag 'h' "", valued 'l' "longoptions", valued 'n' "name",
      valued 'o' "options", flag 'q' "quiet", flag 'Q' "quiet-output", valued 's' "shell",
      flag 'T' "test", flag 'u' "unquoted", flag 'V' ""] fun g => do
    if g.has "T" then return 4
    let shell := ((g.value? "s").map String.ofList).getD "bash"
    match shellKinds.lookup shell with
    | none => c.misused 2 "unknown shell after -s or --shell argument".toList
    | some isForeign => do
      let (letters?, operands) : Option Bytes × List Bytes :=
        match g.value? "o", g.operands with
        | some text, operands => (some text, operands)
        | none, text :: operands => (some text, operands)
        | none, [] => (none, [])
      match letters?, (g.values "l").mapM knownNames with
      | none, _ => c.misused 2 "missing optstring argument".toList
      | _, .error text => c.misused 2 text
      | some text, .ok names =>
        let order : ArgumentOrder := match text.head? with
          | some '+' => .strict
          | some '-' => .kept
          | _ => .permuted
        let letters := if order = .permuted then text else text.drop 1
        let isSilent := letters.head? = some ':'
        let letters := if isSilent then letters.drop 1 else letters
        write ⟨(g.value? "n").getD c.name, knownLetters letters ++ names.flatten, order,
          !g.has "u", isForeign, g.has "a"⟩ (g.has "q" || isSilent) (g.has "Q") operands

end TokenConformance.Sandbox.Shell.Tool
