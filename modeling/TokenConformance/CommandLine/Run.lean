import TokenConformance.CommandLine.Arguments
import TokenConformance.Inspection
import TokenConformance.Report.Json
import TokenConformance.Report.Text

/-! # Running a command line

* `Exit`: the exit status with what is printed.
* `versionText`, `helpText`: the two texts about the program.
* `check`: makes the check that options ask for.
* `run`: does what arguments ask for, or tells what is wrong with them.

The exit status is that of the verdict, and 2 where there is no report or none could be written.
-/

namespace TokenConformance.CommandLine

/-- How a run ends. -/
structure Exit where
  code : UInt8
  output : String
  errors : String
deriving DecidableEq, Inhabited

/-- The tool that the command line names in reports. -/
def tool (commit : Option String) : Tool := ⟨"ercscope-cli", "0.1.0", commit⟩

/-- The variable of the environment that names a compiler. -/
def compilerVariable : String := "ERCSCOPE_SOLC"

/-! ## Texts about the program -/

/-- The text about the version. -/
def versionText : String := "ercscope 0.1.0\n"

/-- An entry of the help text: how something is written, and what it is for. -/
structure HelpEntry where
  form : String
  purpose : String
deriving DecidableEq, Inhabited

namespace ValueOption

/-- What the value of an option is called. -/
def valueName : ValueOption → String
  | standard => "STANDARD"
  | format => "FORMAT"
  | out => "OUT"
  | compiler => "SOLC"
  | compilerArgument => "ARG"
  | libraryPrefix => "PREFIX"
  | commit => "COMMIT"

/-- What an option is for, given the compiler that the environment names. -/
def purpose (environment : Option String) : ValueOption → String
  | standard => "Standard to check against (erc20, erc721) [default: erc20]"
  | format => "Output format [default: text] [possible values: json, text]"
  | out => "Write output to a file instead of stdout"
  | compiler =>
    "solc binary used for .sol inputs [env: " ++ compilerVariable ++ "=" ++ environment.getD "" ++
      "] [default: " ++ Settings.default.compiler ++ "]"
  | compilerArgument => "Extra argument passed to solc (repeatable), e.g. a remapping"
  | libraryPrefix => "Additional source path prefix treated as library code (repeatable)"
  | commit => "Optional git commit hash for tool metadata"

/-- What the help text says about an option. The blanks stand where a short form would be. -/
def helpEntry (environment : Option String) (o : ValueOption) : HelpEntry :=
  ⟨"    " ++ o.flag ++ " <" ++ o.valueName ++ ">", o.purpose environment⟩

end ValueOption

/-- What the help text says about the positional arguments. -/
def positionalEntries : List HelpEntry :=
  [⟨"<SOURCE>", "Solidity source file, or precompiled solc JSON output (.json)"⟩,
    ⟨"<CONTRACT>", "Name of the contract to check"⟩]

/-- What the help text says about the options. -/
def optionEntries (environment : Option String) : List HelpEntry :=
  ValueOption.all.map (ValueOption.helpEntry environment) ++
    [⟨"-v, --verbose...", "Increase log verbosity (-v info, -vv debug)"⟩,
      ⟨"-h, --help", "Print help"⟩, ⟨"-V, --version", "Print version"⟩]

/-- The line of an entry among others of which the longest has a form of some width. -/
def HelpEntry.line (width : Nat) (e : HelpEntry) : String :=
  "  " ++ e.form ++ "".pushn ' ' (width - e.form.length + 2) ++ e.purpose ++ "\n"

/-- Entries under a heading, one to a line. What things are for begins in one column. -/
def helpSection (heading : String) (entries : List HelpEntry) : String :=
  let width := (entries.map fun e => e.form.length).foldl max 0
  heading ++ ":\n" ++ String.join (entries.map (HelpEntry.line width))

/-- The text about the arguments, given the compiler that the environment names. The program goes by
the name of its file. -/
def helpText (environment : Option String) : String :=
  "Check a Solidity contract against an ERC interface standard\n\n" ++
    "Usage: ercscope-cli [OPTIONS] <SOURCE> <CONTRACT>\n\n" ++
    helpSection "Arguments" positionalEntries ++ "\n" ++
    helpSection "Options" (optionEntries environment)

/-! ## Checks -/

/-- The settings that options ask for. The environment names a compiler where no option does. -/
def settings (environment : Option String) (o : Options) : Settings where
  compiler := (o.compiler.or environment).getD Settings.default.compiler
  compilerArguments := o.compilerArguments
  libraryPrefixes := Settings.default.libraryPrefixes ++ o.libraryPrefixes

/-- The report in the form that is asked for. -/
def rendered (format : Format) (r : Report) : String :=
  match format with
  | .json => r.pretty ++ "\n"
  | .text => r.text

/-- A run that ends without a report. -/
def failed (causes : List String) : Exit :=
  ⟨2, "", "error: " ++ ": ".intercalate causes ++ "\n"⟩

/-- The exit status for the one in a report, as far as it is one. -/
def exitCode (code : Int32) : UInt8 :=
  if 0 ≤ code.toInt ∧ code.toInt < 256 then UInt8.ofNat code.toInt.toNat else 2

section

variable {m : Type → Type} [Monad m]

/-- Makes the check that options ask for. -/
def check (w : World m) (environment : Option String) (o : Options) : m Exit := do
  let request : Request := ⟨o.source, o.contract, o.standard⟩
  match ← inspect w (settings environment o) request (tool o.commit) with
  | .error failure => return failed failure.chain
  | .ok report =>
    let text := rendered o.format report
    match o.out with
    | none => return ⟨exitCode report.verdict.exitCode, text, ""⟩
    | some path =>
      match ← w.write path text with
      | .error cause => return failed ["failed to write " ++ path, cause.message]
      | .ok _ => return ⟨exitCode report.verdict.exitCode, "", ""⟩

/-- Does what arguments ask for, given the compiler that the environment names. -/
def run (w : World m) (environment : Option String) (arguments : List String) :
    m (Except UsageError Exit) :=
  match parse arguments with
  | .error e => return .error e
  | .ok .version => return .ok ⟨0, versionText, ""⟩
  | .ok .help => return .ok ⟨0, helpText environment, ""⟩
  | .ok (.check o) =>
    if o.compiler = none ∧ environment = some "" then
      return .error (.invalidValue ValueOption.compiler.flag "")
    else do return .ok (← check w environment o)

end

end TokenConformance.CommandLine
