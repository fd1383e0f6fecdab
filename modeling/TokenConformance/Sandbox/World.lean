import TokenConformance.Inspection
import TokenConformance.Sandbox.Shell.Scheduling

/-! # A world in memory

A check reaches files and compilers through a `World` and through nothing else. Here is one with
nothing outside: its files are a tree in memory, and a compiler is a script in it, such as

    #!/bin/sh
    cat 'output.json'

so that a whole command line can be run, with a compiler that prints, fails or leaves files behind,
and comes to the same every time. The shell and the programs that scripts start are those of a plain
system. They stand under `Sandbox` together with the tree, and no definition outside of it depends
on them. What is proved about checks holds in every world, and so in this one.

* `runProgram`: what happens when a program is started in a tree of files. The programs that are
  there are the shell and those that scripts can start.
* `treeOf`: a tree of files with those programs.
* `outputOf`: what has been written to the output through a path.
* `world`: a world that consists of a tree of files.
-/

namespace TokenConformance.Sandbox

open Sandbox.Text (Bytes)

/-- Whether a text has a zero in it, which no name can have. -/
def hasZero (text : String) : Bool := text.toList.contains '\x00'

/-- The variables with which programs are started, each with its value. -/
abbrev Environment := List (String × String)

/-- Starts a program. A name without a slash is looked up where programs are. -/
def runProgram (environment : Environment) (program : String) (arguments : List String) :
    StateM FileTree (Except SystemError ProgramResult) := fun files =>
  if hasZero program || arguments.any hasZero then
    (.error (.unusable "nul byte found in provided data"), files)
  else
    let given := environment.map fun v => (Bytes.ofString v.1, Bytes.ofString v.2)
    match Shell.run files given (Bytes.ofString program) (arguments.map Bytes.ofString) with
    | .error e => (.error e, files)
    | .ok o =>
      (.ok ⟨o.status = some 0, Bytes.toList o.output, Bytes.toList o.errors⟩, o.files)

/-- Refuses a path that the system does not take. -/
def checkedPath (path : String) : Except SystemError Bytes :=
  if hasZero path then .error (.unusable "file name contained an unexpected NUL byte")
  else .ok (Bytes.ofString path)

/-- A tree of files with the programs that are there. -/
def treeOf (files : List (String × List UInt8)) : FileTree :=
  .ofFiles Shell.programNames (files.map fun f => (Bytes.ofString f.1, Bytes.ofList f.2))

/-- What has been written to the output through a path. -/
def outputOf (files : FileTree) : String :=
  Text.Utf8.replacing (Bytes.toList (files.writtenTo (FileTree.descriptorPlace 1)))

/-- The world that consists of a tree of files, for programs that are started with some variables. -/
def world (environment : Environment) : World (StateM FileTree) where
  read path := fun files =>
    (do return Bytes.toList (← files.read (← checkedPath path)), files)
  write path text := fun files =>
    match do files.write (← checkedPath path) (Bytes.ofString text) with
    | .ok files => (.ok (), files)
    | .error e => (.error e, files)
  start := runProgram environment

end TokenConformance.Sandbox
