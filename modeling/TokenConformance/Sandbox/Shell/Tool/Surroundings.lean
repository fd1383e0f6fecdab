import TokenConformance.Sandbox.Shell.Condition
import TokenConformance.Sandbox.Shell.Tool.Starting

/-! # Programs that tell about what is around them

* `pwd`, `sync`: directories and files.
* `ids`, `whoami`, `logname`, `groups`: the user, who may do everything.
* `uname`, `arch`, `nproc`, `hostname`, `tty`, `visitors`: the machine.
* `which`: where programs are.
* `pass`, `test`, `sleep`: programs that have only a status.
-/

namespace TokenConformance.Sandbox.Shell.Tool

open Sandbox.Text (Bytes)

/-! ## Places -/

/-- Writes the path of the working directory. -/
def pwd : Tool := fun c =>
  c.withOptions [flag 'L' "logical", flag 'P' "physical"] fun g => do
    if g.operands ≠ [] then c.say "ignoring non-option arguments".toList
    let m ← get
    let physical := Sandbox.pathOf m.here
    let logical := ((m.lookup? "PWD".toList).filter fun path =>
      Sandbox.isAbsolute path && (m.find path).toOption = some m.here).getD physical
    print ((if g.lastOf? ["L", "P"] = some "L" then logical else physical) ++ ['\n'])
    return 0

/-- Waits until files are safe, which they are. -/
def sync : Tool := fun c =>
  c.withOptions [flag 'd' "data", flag 'f' "file-system"] fun g =>
    Call.forEach g.operands fun path => do
      match (← get).nodeOf path with
      | .ok _ => return true
      | .error e => c.refuse ("error opening ".toList ++ inQuotes path) e

/-! ## Users -/

/-- The name of the only user, and of the only group. -/
def userName : Bytes := "root".toList

/-- Tells who the user is. -/
def ids : Tool := fun c =>
  c.withOptions
    [flag 'a' "", flag 'g' "group", flag 'G' "groups", flag 'n' "name", flag 'r' "real",
      flag 'u' "user", flag 'z' "zero", flag 'Z' "context"] fun g => do
    let kinds := ["u", "g", "G", "Z"].filter g.has
    if 1 < kinds.length then
      return ← c.fail 1 "cannot print \"only\" of more than one choice".toList
    if kinds = [] && (g.has "n" || g.has "r") then
      return ← c.fail 1 "cannot print only names or real IDs in default format".toList
    if kinds = [] && g.has "z" then
      return ← c.fail 1 "option --zero not permitted in default format".toList
    let ending := if g.has "z" then '\x00' else '\n'
    let shown : Bytes :=
      if kinds = [] then "uid=0(root) gid=0(root) groups=0(root)".toList
      else if g.has "n" then userName else ['0']
    let users := if g.operands = [] then [userName] else g.operands
    Call.forEach users fun user => do
      if user = userName || user = ['0'] then
        print (shown ++ [ending])
        return true
      else
        c.say (inSingleQuotes user ++ ": no such user".toList)
        return false

/-- Writes the name of the user. -/
def whoami : Tool := fun c => c.withOptions [] fun g =>
  c.withAtMost 0 g.operands do
    print (userName ++ ['\n'])
    return 0

/-- Fails to tell under which name the user has come. -/
def logname : Tool := fun c => c.withOptions [] fun g =>
  c.withAtMost 0 g.operands (c.fail 1 "no login name".toList)

/-- Writes the groups of users. -/
def groups : Tool := fun c => c.withOptions [] fun g => do
  if g.operands = [] then
    print (userName ++ ['\n'])
    return 0
  Call.forEach g.operands fun user => do
    if user = userName then
      print (filled "% : %\n" [user, userName])
      return true
    else
      c.say (inSingleQuotes user ++ ": no such user".toList)
      return false

/-! ## The machine -/

/-- The name of the machine. -/
def machineName : String := "localhost"

/-- What can be told about the machine, with the options that ask for it, in the order in which it is
written. -/
def machineFacts : List (String × String) :=
  [("s", "Linux"), ("n", machineName), ("r", "5.15.0"), ("v", "#1 SMP"), ("m", "x86_64"),
    ("p", "x86_64"), ("i", "x86_64"), ("o", "GNU/Linux")]

/-- Tells about the machine. -/
def uname : Tool := fun c =>
  c.withOptions
    [flag 'a' "all", flag 's' "kernel-name", flag 'n' "nodename", flag 'r' "kernel-release",
      flag 'v' "kernel-version", flag 'm' "machine", flag 'p' "processor",
      flag 'i' "hardware-platform", flag 'o' "operating-system"] fun g =>
    c.withAtMost 0 g.operands do
      let wanted := machineFacts.filter fun fact =>
        g.has "a" || g.has fact.1 || (g.options = [] && fact.1 = "s")
      print (Bytes.joined [' '] (wanted.map fun fact => fact.2.toList) ++ ['\n'])
      return 0

/-- Writes what kind of machine this is. -/
def arch : Tool := fun c => c.withOptions [] fun g =>
  c.withAtMost 0 g.operands do
    print "x86_64\n".toList
    return 0

/-- How many processors there are. -/
def processorCount : Nat := 4

/-- Writes how many processors there are. -/
def nproc : Tool := fun c => c.withOptions [longFlag "all", longValued "ignore"] fun g =>
  c.withAtMost 0 g.operands do
    match (g.value? "ignore").map fun text => (text, digitsValue? text) with
    | some (text, none) => c.fail 1 ("invalid number: ".toList ++ inSingleQuotes text)
    | ignored =>
      let count := max 1 (processorCount - (ignored.bind (·.2)).getD 0)
      print (Bytes.ofInt count ++ ['\n'])
      return 0

/-- Writes the name of the machine. -/
def hostname : Tool := fun _ => do
  print (machineName.toList ++ ['\n'])
  return 0

/-- Tells that there is no terminal. -/
def tty : Tool := fun c =>
  c.withOptionsUpTo false 2 [flag 's' "silent", longFlag "quiet"] fun g => do
    match g.operands with
    | extra :: _ => c.misused 2 ("extra operand ".toList ++ inSingleQuotes extra)
    | [] =>
      if !g.has "s" && !g.has "quiet" then print "not a tty\n".toList
      return 1

/-- Tells who uses the machine, which is nobody. -/
def visitors : Tool := fun c => c.withOptions (letters "abdHlmpqrstTuw") fun _ => pure 0

/-! ## Programs -/

/-- Whether a path leads to a file that can be run. -/
def leadsToProgram (m : Machine) (path : Bytes) : Bool :=
  match m.nodeOf path with
  | .ok (_, node) =>
    match node.kind with
    | .file _ | .program _ => isRunnable node
    | _ => false
  | .error _ => false

/-- Tells where programs are. -/
def which : Tool := fun c => do
  let g := Given.ofArguments (letters "as") true (c.arguments.length + 1) c.arguments
  match g.fault with
  | some text =>
    complain ("Illegal option -".toList ++ (text.reverse.drop 1).take 1)
    print "Usage: /usr/bin/which [-as] args\n".toList
    return 2
  | none => do
    let m ← get
    let directories := ((m.lookup? "PATH".toList).getD []).splitOn ':'
    let found (name : Bytes) : List Bytes :=
      let paths : List Bytes := if '/' ∈ name then [name]
        else directories.map fun d => (if d = [] then ['.'] else d) ++ '/' :: name
      let there := paths.filter (leadsToProgram m)
      if g.has "a" then there else there.take 1
    let all := g.operands.map found
    if !g.has "s" then printLines all.flatten
    return Call.statusOf (all ≠ [] && all.all (· ≠ []))

/-! ## Statuses -/

/-- Does nothing and has a status. -/
def pass (status : Nat) : Tool := fun c =>
  if c.arguments = ["--help".toList] || c.arguments = ["--version".toList] then
    do let _ ← c.withOptions [] fun _ => pure 0
       return status
  else pure status

/-- Tells whether a condition holds. -/
def condition (c : Call) (words : List Bytes) : Action Nat := do
  match holds (← get) words with
  | .ok value => return Call.statusOf value
  | .error text => c.fail 2 text

/-- Tells whether a condition holds. -/
def test : Tool := fun c => condition c c.arguments

/-- Tells whether a condition holds that ends with a bracket. -/
def bracket : Tool := fun c =>
  if c.arguments = ["--help".toList] || c.arguments = ["--version".toList] then
    c.withOptions [] fun _ => pure 0
  else if c.arguments.getLast? = some [']'] then condition c c.arguments.dropLast
  else c.fail 2 "missing ']'".toList

/-- Lets time pass. -/
def sleep : Tool := fun c => c.withOptions [] fun g => do
  if g.operands = [] then return ← c.misused 1 "missing operand".toList
  match g.operands.filter fun text => (duration? text).isNone with
  | [] =>
    pauseFor (max 1 ((g.operands.filterMap duration?).foldl (· + ·) 0))
    return 0
  | wrong =>
    for text in wrong do
      c.say ("invalid time interval ".toList ++ inSingleQuotes text)
    c.misused 1 []

end TokenConformance.Sandbox.Shell.Tool
