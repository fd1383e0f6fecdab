import TokenConformance.Sandbox.Shell.Machine
import TokenConformance.Sandbox.Shell.Tool.Options
import TokenConformance.Sandbox.Text.Bytes

/-! # Programs that scripts start

* `Call`: how a program is called; `Tool`: a program, whose exit status is what it returns.
* `Call.say`, `Call.misused`: what a program says about itself and its arguments.
* `Call.withOptions`: goes on with the options and operands of a call.
* `Call.eachContent`, `Call.contents`: what operands name.
* `named`: a name that is quoted only if it needs quotes.
* `inQuotes`, `inSingleQuotes`: names in quotes, from which a shell reads them back.
* `print`: prints to the output in blocks; `printDirectly` writes at once.
-/

namespace TokenConformance.Sandbox.Shell

open Sandbox.Text (Bytes)

/-- How a program is called. -/
structure Call where
  name : Bytes
  arguments : List Bytes
  /-- Starts a program, whose name comes before its arguments. -/
  start : List Bytes → Action (Except SystemError Nat)

/-- A program. -/
abbrev Tool := Call → Action Nat

namespace Tool

/-! ## Texts -/

/-- A text in which every `%` stands for one of the arguments, in their order. -/
def filled (text : String) (arguments : List Bytes) : Bytes :=
  (text.toList.foldl
    (fun (found : Bytes × List Bytes) c =>
      match c, found.2 with
      | '%', a :: rest => (a.reverseAux found.1, rest)
      | c, rest => (c :: found.1, rest)) ([], arguments)).1.reverse

/-- The last part of a path. -/
def lastPart (path : Bytes) : Bytes :=
  let path := (path.reverse.dropWhile (· = '/')).reverse
  (path.reverse.takeWhile (· ≠ '/')).reverse

/-- A path without the slashes at its end. -/
def withoutSlashes (path : Bytes) : Bytes :=
  match (path.reverse.dropWhile (· = '/')).reverse with
  | [] => path.take 1
  | cut => cut

/-- The parts of a text up to every character of a kind, which stays at their ends. -/
def endedBy (mark : Char) (text : Bytes) : List Bytes :=
  let parts := text.splitOn mark
  parts.dropLast.map (· ++ [mark]) ++ (parts.getLast?.filter (· ≠ [])).toList

/-- The lines of a text with their ends. -/
def wholeLines (text : Bytes) : List Bytes := endedBy '\n' text

/-- A line without its end. -/
def withoutMark (mark : Char) (line : Bytes) : Bytes :=
  if line.getLast? = some mark then line.dropLast else line

/-- A text with blanks before it. -/
def padded (width : Nat) (text : Bytes) : Bytes :=
  List.replicate (width - text.length) ' ' ++ text

/-- A number of at least some width, with blanks before it. -/
def paddedNumber (width n : Nat) : Bytes := padded width (Bytes.ofInt n)

/-- A whole number. -/
def integer? : Bytes → Option Int
  | '-' :: digits => (digitsValue? digits).map fun n => -(n : Int)
  | '+' :: digits => (digitsValue? digits).map Int.ofNat
  | digits => (digitsValue? digits).map Int.ofNat

/-! ## Names -/

/-- The characters that mean the same to a shell with quotes and without them, wherever they
stand. -/
def isHarmless (c : Char) : Bool :=
  c.isAlphanum || c ∈ ['%', '+', ',', '-', '.', '/', ']', '_', '@']

/-- Whether a character can be shown as it is. -/
def isShowable (c : Char) : Bool := 32 ≤ c.toNat && c.toNat < 127

/-- Whether a name needs quotes. A brace needs them when it stands alone, a number sign and a tilde
when they come first. -/
def needsQuotes (name : Bytes) : Bool :=
  match name with
  | [] => true
  | [c] => !isHarmless c
  | c :: rest => !(isHarmless c || isBrace c) ||
    !rest.all fun c => isHarmless c || isBrace c || c = '#' || c = '~'
where
  /-- Whether a character is a brace. -/
  isBrace (c : Char) : Bool := c = '\x7b' || c = '\x7d'

/-- A character that cannot be shown as it is, after a backslash. -/
def escapeOf (c : Char) : Bytes :=
  match c with
  | '\x07' => ['\\', 'a']
  | '\x08' => ['\\', 'b']
  | '\t' => ['\\', 't']
  | '\n' => ['\\', 'n']
  | '\x0b' => ['\\', 'v']
  | '\x0c' => ['\\', 'f']
  | '\r' => ['\\', 'r']
  | c => ['\\', Nat.digitChar (c.toNat / 64), Nat.digitChar (c.toNat / 8 % 8),
      Nat.digitChar (c.toNat % 8)]

/-- A text for single quotes. Escapes stand in quotes of their own, after a dollar sign; the flag
tells whether such quotes are open. -/
def betweenQuotes : Bool → Bytes → Bytes
  | _, [] => []
  | isEscaping, c :: rest =>
    if c = '\'' then "'\\''".toList ++ betweenQuotes false rest
    else if isShowable c then
      (if isEscaping then ['\'', '\''] else []) ++ c :: betweenQuotes false rest
    else (if isEscaping then [] else "'$'".toList) ++ escapeOf c ++ betweenQuotes true rest

/-- A name in quotes. They are double quotes if the name has a single quote and nothing else that
matters to a shell. -/
def inQuotes (name : Bytes) : Bytes :=
  let isPlain (c : Char) : Bool := isHarmless c && c ≠ '@' || c = ' ' || c = ':' || c = '\''
  if name.contains '\'' && name.all isPlain then '"' :: name ++ ['"']
  else '\'' :: betweenQuotes false name ++ ['\'']

/-- A name that is quoted only if it needs quotes. -/
def named (name : Bytes) : Bytes := if needsQuotes name then inQuotes name else name

/-- An argument in single quotes. -/
def inSingleQuotes (argument : Bytes) : Bytes :=
  let shown := argument.flatMap fun c =>
    if c = '\'' || c = '\\' then ['\\', c] else if isShowable c then [c] else escapeOf c
  '\'' :: shown ++ ['\'']

/-! ## Output -/

/-- Writes to the output. A program that cannot write has ended. -/
def printDirectly (text : Bytes) : Action Unit := do
  if text ≠ [] then
    match ← writeTo 1 text with
    | .ok () => return ()
    | .error e => throw (.unwritten e)

/-- Writes all that has been printed. -/
def flush : Action Unit := do
  let text := (← get).printed.reverse
  modify fun m => { m with printed := [] }
  printDirectly text

/-- How much is printed before it is written. -/
def printSize : Nat := 4096

/-- Prints a text. It is written in blocks. -/
def print (text : Bytes) : Action Unit := do
  let all := text.reverseAux (← get).printed
  let size := all.length
  if size < printSize then modify fun m => { m with printed := all }
  else
    modify fun m => { m with printed := all.take (size % printSize) }
    printDirectly (all.drop (size % printSize)).reverse

/-- Prints lines. -/
def printLines (ls : List Bytes) : Action Unit := print (Bytes.ofLines ls)

end Tool

namespace Call

open Shell.Tool

/-- Says something under the name of a program, before what has been printed is written. -/
def sayFirst (c : Call) (text : Bytes) : Action Unit := complain (c.name ++ ": ".toList ++ text)

/-- Says something under the name of a program, after what has been printed. -/
def say (c : Call) (text : Bytes) : Action Unit := do
  flush
  c.sayFirst text

/-- Says something and goes on with a status. -/
def fail (c : Call) (status : Nat) (text : Bytes) : Action Nat := do
  c.say text
  return status

/-- Says something about a file and goes on. -/
def refuse (c : Call) (text : Bytes) (e : SystemError) : Action Bool := do
  c.say (text ++ ": ".toList ++ describe e)
  return false

/-- The collections of programs, with their versions, that do not belong to the largest one. -/
def collections : List (String × List String) :=
  [("GNU findutils) 4.9.0", ["find", "xargs"]), ("GNU diffutils) 3.10", ["cmp", "diff"]),
    ("GNU grep) 3.11", ["grep"]), ("GNU sed) 4.9", ["sed"])]

/-- The collection of a program that does not belong to the largest one. -/
def collection? (c : Call) : Option String :=
  let name := lastPart c.name
  (collections.find? fun k => k.2.any fun n => n.toList = name).map (·.1)

/-- How to find out about a program. The programs that compare files put their names before it. -/
def hint (c : Call) : Bytes :=
  let text := filled "Try '% --help' for more information." [c.name]
  if c.collection?.any ("GNU diffutils".isPrefixOf ·) then c.name ++ ": ".toList ++ text else text

/-- Says what is wrong with the arguments of a program, if there is something to say, and how to
find out about them. -/
def misused (c : Call) (status : Nat) (text : Bytes) : Action Nat := do
  if text ≠ [] then c.say text
  complain c.hint
  return status

/-- The line that tells the version of a program. -/
def versionLine (c : Call) : Bytes :=
  lastPart c.name ++ (" (" ++ c.collection?.getD "GNU coreutils) 9.4").toList

/-- The options that nearly every program has. -/
def commonForms : List OptionForm := [longFlag "help", longFlag "version"]

/-- Goes on with the options and operands of a call. The status is the one for arguments that the
program cannot take. -/
def withOptionsUpTo (c : Call) (endsAtOperand : Bool) (status : Nat) (forms : List OptionForm)
    (f : Given → Action Nat) : Action Nat := do
  let g := Given.ofArguments (forms ++ commonForms) endsAtOperand (c.arguments.length + 1)
    c.arguments
  match g.fault with
  | some text => c.misused status text
  | none =>
    if g.has "help" then
      print (filled "Usage: % [OPTION]...\n" [c.name])
      return 0
    else if g.has "version" then
      print (c.versionLine ++ ['\n'])
      return 0
    else f g

/-- Goes on with the options and operands of a call. -/
def withOptions (c : Call) (forms : List OptionForm) (f : Given → Action Nat) : Action Nat :=
  c.withOptionsUpTo false 1 forms f

/-- Puts a text into the file to which a path leads. -/
def putPath (how : Opening) (path text : Bytes) : Action (Except SystemError Unit) := do
  match ← openPath how path with
  | .error e => return .error e
  | .ok channel =>
    match (← get).written channel text with
    | .error e => return .error e
    | .ok m =>
      set m
      return .ok ()

/-- Goes on if there are no more operands than a program takes. -/
def withAtMost (c : Call) (most : Nat) (operands : List Bytes) (a : Action Nat) : Action Nat :=
  match operands[most]? with
  | some extra => c.misused 1 ("extra operand ".toList ++ inSingleQuotes extra)
  | none => a

/-- Says that an option does not name one of some words. -/
def refuseChoice (c : Call) (option : String) (known : List String) (fault : String) (text : Bytes) :
    Action Nat := do
  c.say (filled "% argument % for %"
    [fault.toList, inSingleQuotes text, inSingleQuotes option.toList])
  complain "Valid arguments are:".toList
  for k in known do
    complain ("  - ".toList ++ inSingleQuotes k.toList)
  complain c.hint
  return 1

/-- Goes on with the one of some words that an option names, which may be cut short as long as it is
clear which one is meant. -/
def withChoice (c : Call) (option : String) (known : List String) (text : Bytes)
    (f : String → Action Nat) : Action Nat := do
  let exact := known.filter fun k => k.toList = text
  let found := if exact ≠ [] then exact else known.filter fun k => text.isPrefixOf k.toList
  match found with
  | [k] => f k
  | _ =>
    c.refuseChoice option known (if found = [] || text = [] then "invalid" else "ambiguous") text

/-! ## Contents -/

/-- What a program says about a file that it cannot read. -/
abbrev Complaint := Bytes → SystemError → Bytes

/-- The complaint that names the file and the reason. -/
def plainComplaint : Complaint := fun path e => named path ++ ": ".toList ++ describe e

/-- The complaint that names the file in quotes. -/
def quotedComplaint (text : String) : Complaint := fun path e =>
  text.toList ++ inQuotes path ++ ": ".toList ++ describe e

/-- A complaint about a file that cannot be opened, or that can be opened and not be read. -/
def openOrRead (openText readText : Complaint) : Complaint := fun path e =>
  if e = .isADirectory then readText path e else openText path e

/-- The content that an operand names. A hyphen names what there is to read. -/
def contentOf (path : Bytes) : Action (Except SystemError Bytes) :=
  if path = ['-'] then readAll 0 else readPath path

/-- What operands name, where a hyphen is meant if there is none. -/
def orInput (operands : List Bytes) : List Bytes := if operands = [] then [['-']] else operands

/-- Does something with the contents that operands name, one after another. The result says whether
all of them could be read. -/
def eachContent (c : Call) (complaint : Complaint) (operands : List Bytes)
    (f : Bytes → Bytes → Action Unit) : Action Bool := do
  let results ← (orInput operands).mapM fun path => do
    match ← contentOf path with
    | .ok content =>
      f path content
      return true
    | .error e =>
      c.say (complaint path e)
      return false
  return results.all id

/-- The contents that operands name, with their names. The second result says whether all of them
could be read. -/
def contents (c : Call) (complaint : Complaint) (operands : List Bytes) :
    Action (List (Bytes × Bytes) × Bool) := do
  let found ← (orInput operands).mapM fun path => do
    match ← contentOf path with
    | .ok content => return some (path, content)
    | .error e =>
      c.say (complaint path e)
      return none
  return (found.filterMap id, found.all Option.isSome)

/-- The status that says whether all went well. -/
def statusOf (isDone : Bool) : Nat := if isDone then 0 else 1

/-- A program that turns each of its inputs into output. -/
def filterEach (c : Call) (complaint : Complaint) (operands : List Bytes) (f : Bytes → Bytes) :
    Action Nat := do
  return statusOf (← c.eachContent complaint operands fun _ content => print (f content))

/-- A program that turns all of its input into its output, of which it writes as much as it can before
it says something. -/
def filterAll (c : Call) (complaint : Complaint) (operands : List Bytes) (f : Bytes → Bytes) :
    Action Nat := do
  let mut read : Bytes := []
  let mut written := 0
  let mut isDone := true
  for path in orInput operands do
    match ← contentOf path with
    | .ok content => read := read ++ content
    | .error e =>
      let text := f read
      print (text.drop written)
      written := text.length
      c.say (complaint path e)
      isDone := false
  print ((f read).drop written)
  return statusOf isDone

/-- Does something for every operand. The status tells whether all went well. -/
def forEach (operands : List Bytes) (f : Bytes → Action Bool) : Action Nat := do
  return statusOf ((← operands.mapM f).all id)

/-- Does something for every operand, of which there has to be one. -/
def forSome (c : Call) (operands : List Bytes) (f : Bytes → Action Bool) : Action Nat :=
  if operands = [] then c.misused 1 "missing operand".toList else forEach operands f

end Call

end TokenConformance.Sandbox.Shell
