import TokenConformance.Sandbox.Shell.Records.Running

/-! # The program that works on records

* `RecordCall`: what the arguments of a call say.
* `readRecordCall`: reads them.
* `awk`: runs a script for the records of files.
-/

namespace TokenConformance.Sandbox.Shell.Tool

open Sandbox.Text (Bytes)

/-- What the arguments of a call say. -/
structure RecordCall where
  /-- The values of variables, in their order. -/
  values : List (Bytes × Bytes)
  /-- The names of files with parts of the script. -/
  files : List Bytes
  operands : List Bytes
  /-- Whether only the version is told. -/
  isVersion : Bool
  /-- Whether only the usage is told. -/
  isUsage : Bool
deriving Inhabited

/-- Reads the arguments of a call, or tells what is wrong with them. The number bounds how many there
are. -/
def readRecordCall : Nat → List Bytes → RecordCall → Except Bytes RecordCall
  | 0, rest, r => .ok { r with operands := rest }
  | _, [], r => .ok r
  | n + 1, a :: rest, r =>
    let valued (letter : Char) (text : Bytes)
        (f : Bytes → Except Bytes RecordCall) (next : RecordCall → List Bytes → Except Bytes RecordCall) :
        Except Bytes RecordCall :=
      match text, rest with
      | [], [] => .error (filled "option -% lacks argument" [[letter]])
      | [], value :: rest => do next (← f value) rest
      | text, rest => do next (← f text) rest
    let goesOn (r : RecordCall) (rest : List Bytes) : Except Bytes RecordCall :=
      readRecordCall n rest r
    match a with
    | ['-', '-'] => .ok { r with operands := rest }
    | '-' :: '-' :: name =>
      if name = "version".toList then .ok { r with isVersion := true }
      else if name = "help".toList || name = "usage".toList then .ok { r with isUsage := true }
      else .error ("not an option: ".toList ++ a)
    | '-' :: 'f' :: text =>
      valued 'f' text (fun v => .ok { r with files := r.files ++ [v] }) goesOn
    | '-' :: 'F' :: text =>
      valued 'F' text (fun v => .ok { r with values := r.values ++ [("FS".toList, v)] }) goesOn
    | '-' :: 'v' :: text =>
      let assign (v : Bytes) : Except Bytes RecordCall :=
        match Records.namedValue? v with
        | some pair => .ok { r with values := r.values ++ [pair] }
        | none => .error ("improper assignment: -v ".toList ++ v)
      valued 'v' text assign goesOn
    | '-' :: 'W' :: text =>
      let special (v : Bytes) : Except Bytes RecordCall :=
        if v = "version".toList then .ok { r with isVersion := true }
        else if v = "help".toList || v = "usage".toList then .ok { r with isUsage := true }
        else .ok r
      valued 'W' text special goesOn
    | '-' :: _ :: _ => .error ("not an option: ".toList ++ a)
    | _ => .ok { r with operands := a :: rest }

/-- What is said about how the program is used. -/
def awkUsage : List String :=
  [ "Usage: mawk [Options] [Program] [file ...]",
    "",
    "Program:",
    "    The -f option value is the name of a file containing program text.",
    "    If no -f option is given, a \"--\" ends option processing; the following",
    "    parameters are the program text.",
    "",
    "Options:",
    "    -f program-file  Program  text is read from file instead of from the",
    "                     command-line.  Multiple -f options are accepted.",
    "    -F value         sets the field separator, FS, to value.",
    "    -v var=value     assigns value to program variable var.",
    "    --               unambiguous end of options.",
    "",
    "    Implementation-specific options are prefixed with \"-W\".  They can be",
    "    abbreviated:",
    "",
    "    -W version       show version information and exit.",
    "    -W compat        pre-POSIX 2001.",
    "    -W dump          show assembler-like listing of program and exit.",
    "    -W help          show this message and exit.",
    "    -W interactive   set unbuffered output, line-buffered input.",
    "    -W exec file     use file as program as well as last option.",
    "    -W posix         stricter POSIX checking.",
    "    -W random=number set initial random seed.",
    "    -W sprintf=number adjust size of sprintf buffer.",
    "    -W usage         show this message and exit." ]

/-- Works on the records of files. -/
def awk : Tool := fun c => do
  match readRecordCall (c.arguments.length + 1) c.arguments ⟨[], [], [], false, false⟩ with
  | .error text => c.fail 2 text
  | .ok r =>
    if r.isVersion then
      print "mawk 1.3.4 20240123\n".toList
      return 0
    if r.isUsage || (r.files = [] && r.operands = []) then
      print (Bytes.ofLines (awkUsage.map String.toList))
      return 0
    let mut texts : List Bytes := []
    for path in r.files do
      match ← Call.contentOf path with
      | .ok content => texts := texts ++ [content]
      | .error e => return ← c.fail 2 (filled "cannot open \"%\" (%)" [path, describe e])
    let text : Bytes := if r.files = [] then r.operands.headD [] else Bytes.joined ['\n'] texts
    let operands := if r.files = [] then r.operands.drop 1 else r.operands
    match Records.readScript text with
    | .error faults =>
      for fault in faults do
        c.say (match r.files with
          | path :: _ => path ++ ": ".toList ++ fault
          | [] => fault)
      return 2
    | .ok script => Records.runScript c script r.values (c.name :: operands)

end TokenConformance.Sandbox.Shell.Tool
