import TokenConformance.Sandbox.Shell.Condition
import TokenConformance.Sandbox.Shell.Tool.Arguments
import TokenConformance.Sandbox.Shell.Tool.Bytewise
import TokenConformance.Sandbox.Shell.Tool.Checksums
import TokenConformance.Sandbox.Shell.Tool.Columns
import TokenConformance.Sandbox.Shell.Tool.Copying
import TokenConformance.Sandbox.Shell.Tool.Counting
import TokenConformance.Sandbox.Shell.Tool.Cutting
import TokenConformance.Sandbox.Shell.Tool.Dates
import TokenConformance.Sandbox.Shell.Tool.Describing
import TokenConformance.Sandbox.Shell.Tool.Differing
import TokenConformance.Sandbox.Shell.Tool.Dumping
import TokenConformance.Sandbox.Shell.Edit.Editor
import TokenConformance.Sandbox.Shell.Tool.Encoding
import TokenConformance.Sandbox.Shell.Tool.Ends
import TokenConformance.Sandbox.Shell.Tool.Figures
import TokenConformance.Sandbox.Shell.Tool.Filling
import TokenConformance.Sandbox.Shell.Finding.Runner
import TokenConformance.Sandbox.Shell.Tool.Gathering
import TokenConformance.Sandbox.Shell.Tool.Joining
import TokenConformance.Sandbox.Shell.Tool.Letters
import TokenConformance.Sandbox.Shell.Tool.Lines
import TokenConformance.Sandbox.Shell.Tool.Listing
import TokenConformance.Sandbox.Shell.Tool.Making
import TokenConformance.Sandbox.Shell.Tool.Messages
import TokenConformance.Sandbox.Shell.Tool.Moving
import TokenConformance.Sandbox.Shell.Tool.Names
import TokenConformance.Sandbox.Shell.Tool.Ordering
import TokenConformance.Sandbox.Shell.Tool.Removing
import TokenConformance.Sandbox.Shell.Tool.Searching
import TokenConformance.Sandbox.Shell.Tool.Sections
import TokenConformance.Sandbox.Shell.Tool.Sorting
import TokenConformance.Sandbox.Shell.Tool.Starting
import TokenConformance.Sandbox.Shell.Tool.Surroundings
import TokenConformance.Sandbox.Shell.Tool.Values
import TokenConformance.Sandbox.Shell.Tool.Working

/-! # The programs that are there

* `tools`: every program with its name; `shellNames` are those of the shell.
* `programAt`: what a file is that is to be run.
* `programPath`: where a program is that has no path.
* `interpreter?`: the program that a script asks for in its first line.
-/

namespace TokenConformance.Sandbox.Shell

open Sandbox.Text (Bytes)
open Sandbox (Kind)

/-- The programs with their names. -/
def tools : List (String × Tool) :=
  [("[", Tool.bracket), ("arch", Tool.arch), ("awk", Tool.awk),
    ("b2sum", Tool.digestTool "blake2b"), ("base32", Tool.base32), ("base64", Tool.base64),
    ("basename", Tool.basename), ("basenc", Tool.basenc), ("cat", Tool.cat), ("chgrp", Tool.chgrp),
    ("chmod", Tool.chmod), ("chown", Tool.chown), ("cksum", Tool.cksum), ("cmp", Tool.cmp),
    ("comm", Tool.comm), ("cp", Tool.cp), ("csplit", Tool.csplit), ("cut", Tool.cut),
    ("date", Tool.date), ("dd", Tool.dd), ("diff", Tool.diff), ("dir", Tool.dir),
    ("dirname", Tool.dirname), ("echo", Tool.echo), ("egrep", Tool.egrep), ("env", Tool.env),
    ("expand", Tool.expand), ("expr", Tool.expr), ("factor", Tool.factor), ("false", Tool.pass 1),
    ("fgrep", Tool.fgrep), ("find", Tool.find), ("fmt", Tool.fmt), ("fold", Tool.fold),
    ("getopt", Tool.getopt), ("grep", Tool.grep), ("groups", Tool.groups), ("head", Tool.head),
    ("hostname", Tool.hostname), ("id", Tool.ids), ("install", Tool.install), ("join", Tool.join),
    ("link", Tool.link), ("ln", Tool.ln), ("logname", Tool.logname), ("ls", Tool.ls),
    ("mawk", Tool.awk), ("md5sum", Tool.digestTool "md5"), ("mkdir", Tool.mkdir),
    ("mkfifo", Tool.mkfifo), ("mknod", Tool.mknod), ("mktemp", Tool.mktemp), ("mv", Tool.mv),
    ("nice", Tool.nice), ("nl", Tool.nl), ("nohup", Tool.nohup), ("nproc", Tool.nproc),
    ("numfmt", Tool.numfmt), ("od", Tool.od), ("paste", Tool.paste), ("pathchk", Tool.pathchk),
    ("printenv", Tool.printenv), ("printf", Tool.printf), ("pwd", Tool.pwd),
    ("readlink", Tool.readlink), ("realpath", Tool.realpath), ("rev", Tool.rev), ("rm", Tool.rm),
    ("rmdir", Tool.rmdir), ("sed", Tool.sed), ("seq", Tool.seq), ("setsid", Tool.setsid),
    ("sha1sum", Tool.digestTool "sha1"), ("sha224sum", Tool.digestTool "sha224"),
    ("sha256sum", Tool.digestTool "sha256"), ("sha384sum", Tool.digestTool "sha384"),
    ("sha512sum", Tool.digestTool "sha512"), ("shuf", Tool.shuf), ("sleep", Tool.sleep),
    ("sort", Tool.sort), ("split", Tool.split), ("stat", Tool.stat), ("stdbuf", Tool.stdbuf),
    ("sum", Tool.sum), ("sync", Tool.sync), ("tac", Tool.tac), ("tail", Tool.tail),
    ("tee", Tool.tee), ("test", Tool.test), ("timeout", Tool.timeout), ("touch", Tool.touch),
    ("tr", Tool.tr), ("true", Tool.pass 0), ("truncate", Tool.truncate), ("tsort", Tool.tsort),
    ("tty", Tool.tty), ("uname", Tool.uname), ("unexpand", Tool.unexpand), ("uniq", Tool.uniq),
    ("unlink", Tool.unlink), ("users", Tool.visitors), ("vdir", Tool.vdir), ("wc", Tool.wc),
    ("which", Tool.which), ("who", Tool.visitors), ("whoami", Tool.whoami), ("xargs", Tool.xargs),
    ("yes", Tool.yes)]

/-- The program with a name. -/
def toolNamed? (name : Bytes) : Option Tool :=
  (tools.find? fun t => t.1.toList = name).map (·.2)

/-- The names of the shell. -/
def shellNames : List String := ["sh", "dash", "bash"]

/-- Whether a program is the shell. -/
def isShell (name : Bytes) : Bool := shellNames.any fun s => s.toList = name

/-- The names of all programs. -/
def programNames : List Bytes := (shellNames ++ tools.map (·.1)).map String.toList

/-- What a file is that is to be run. -/
def programAt (m : Machine) (path : Bytes) : Except SystemError Kind := do
  let (_, node) ← m.nodeOf path
  match node.kind with
  | .file _ | .program _ => if isRunnable node then return node.kind else throw .permissionDenied
  | _ => throw .permissionDenied

/-- The directories in which programs are looked up. -/
def programDirectories (m : Machine) : List Bytes :=
  ((m.lookup? "PATH".toList).getD "/bin:/usr/bin".toList).splitOn ':'

/-- Where a program is that has no path. -/
def programPath (m : Machine) (name : Bytes) : Except SystemError Bytes :=
  if '/' ∈ name then .ok name
  else if name.length > Sandbox.longestName then .error .nameTooLong
  else
    let candidates := (programDirectories m).map fun d => if d = [] then name else d ++ '/' :: name
    let isFound (path : Bytes) : Bool := (programAt m path).toOption.isSome
    let isDenied (path : Bytes) : Bool :=
      match programAt m path with
      | .error .permissionDenied => true
      | _ => false
    match candidates.find? isFound with
    | some path => .ok path
    | none => .error (if candidates.any isDenied then .permissionDenied else .notFound)

/-- The program that a script asks for in its first line, with the argument that it gives to it. -/
def interpreter? (text : Bytes) : Option (List Bytes) :=
  match text with
  | '#' :: '!' :: rest =>
    let isBlank (c : Char) : Bool := c = ' ' || c = '\t'
    let line := (rest.takeWhile (· ≠ '\n')).dropWhile isBlank
    let name := line.takeWhile fun c => !isBlank c
    let argument := (((line.drop name.length).dropWhile isBlank).reverse.dropWhile isBlank).reverse
    if name = [] then none else some (name :: if argument = [] then [] else [argument])
  | _ => none

end TokenConformance.Sandbox.Shell
