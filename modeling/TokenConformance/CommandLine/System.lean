import TokenConformance.CommandLine.Run

/-! # The command line in an operating system

* `SystemError.ofNumber`, `SystemError.ofIO`: what an error of the operating system is called here.
* `systemWorld`: the files of the operating system, with its programs.
* `runInSystem`: runs the command line there.

How a program is started, with its output and its errors kept apart, is left to the caller: it is
the only thing that a check needs of an operating system besides reading and writing files.
-/

namespace TokenConformance

namespace SystemError

/-- The error with a number. Some of the functions that read files give the number with a minus. -/
def ofNumber (code : UInt32) (text : String) : SystemError :=
  match code.toInt32.toInt.natAbs with
  | 2 => .notFound
  | 13 => .permissionDenied
  | 20 => .notADirectory
  | 21 => .isADirectory
  | n => .other text n

/-- What an error of the operating system is called here. -/
def ofIO : IO.Error → SystemError
  | .noFileOrDirectory _ code text | .permissionDenied _ code text | .inappropriateType _ code text
  | .alreadyExists _ code text | .invalidArgument _ code text | .resourceExhausted _ code text
  | .noSuchThing _ code text | .interrupted _ code text | .otherError code text
  | .resourceBusy code text | .resourceVanished code text | .unsupportedOperation code text
  | .hardwareFault code text | .unsatisfiedConstraints code text | .illegalOperation code text
  | .protocolError code text | .timeExpired code text => ofNumber code text
  | .unexpectedEof => .unusable "unexpected end of file"
  | .userError text => .unusable text

end SystemError

namespace CommandLine

/-- A way to start a program with arguments and to wait until it ends. -/
abbrev Starter := String → List String → IO (Except SystemError ProgramResult)

/-- The files of the operating system, with its programs. -/
def systemWorld (start : Starter) : World IO where
  read path := do
    try return .ok (← IO.FS.readBinFile path).toList
    catch e => return .error (.ofIO e)
  write path text := do
    try
      let file ← IO.FS.Handle.mk path .write
      file.putStr text
      -- what is still to be written when the file is closed could fail without a word
      file.flush
      return .ok ()
    catch e => return .error (.ofIO e)
  start := start

/-- Runs the command line, prints what it has to say and gives the exit status. -/
def runInSystem (start : Starter) (arguments : List String) : IO UInt32 := do
  match ← run (systemWorld start) (← IO.getEnv compilerVariable) arguments with
  | .error e =>
    IO.eprintln ("error: " ++ e.message)
    return 2
  | .ok exit =>
    IO.print exit.output
    IO.eprint exit.errors
    return exit.code.toUInt32

end CommandLine

end TokenConformance
