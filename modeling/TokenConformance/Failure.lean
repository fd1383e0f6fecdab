/-! # Why a check has no result

* `SystemError`: what the operating system says about a file or a program.
* `RequestFailure`: the request itself is wrong.
* `SourceFailure`: no contract could be got from the source.
* `InspectionFailure`: either of the two.
* `RuleFailure`: one rule has no answer for a contract.

Every kind has its text in a function `message`.
-/

namespace TokenConformance

/-- An error of the operating system. The kinds with a constructor of their own are those that
reading a source, starting a compiler and writing a report come across most; `other` is everything
else, as the system describes it. -/
inductive SystemError where
  | notFound
  | notADirectory
  | isADirectory
  | permissionDenied
  | other (description : String) (code : Nat)
  /-- The operating system was not asked, because it does not take such names. -/
  | unusable (description : String)
deriving DecidableEq, Inhabited

namespace SystemError

/-- The description with the number of the error. -/
def message : SystemError → String
  | notFound => "No such file or directory (os error 2)"
  | permissionDenied => "Permission denied (os error 13)"
  | notADirectory => "Not a directory (os error 20)"
  | isADirectory => "Is a directory (os error 21)"
  | other description code => description ++ " (os error " ++ toString code ++ ")"
  | unusable description => description

end SystemError

/-- What is wrong with a request. -/
inductive RequestFailure where
  | unknownStandard (name supported : String)
  | emptyContractName
deriving DecidableEq, Inhabited

namespace RequestFailure

/-- The text of the failure. -/
def message : RequestFailure → String
  | unknownStandard name supported =>
    "unknown standard `" ++ name ++ "` (supported: " ++ supported ++ ")"
  | emptyContractName => "contract name must not be empty"

end RequestFailure

/-- Why a source gives no contract. -/
inductive SourceFailure where
  | unreadable (path : String) (cause : SystemError)
  | compilerNotStarted (program : String) (cause : SystemError)
  | compilationFailed (messages : String)
  /-- The output of a compiler is not the JSON that is expected. What the library that reads JSON
  has to say about it, which comes with a line and a column, is left out: it depends on the wording
  of the output, and outputs that differ in their wording alone come to the same here. -/
  | malformedOutput
  | noSyntaxTree
  | contractNotFound (name : String) (available : List String)
  | malformedTree (contract detail : String)
deriving DecidableEq, Inhabited

namespace SourceFailure

/-- The text of the failure. -/
def message : SourceFailure → String
  | unreadable path cause => "failed to read " ++ path ++ ": " ++ cause.message
  | compilerNotStarted program cause =>
    "compiler `" ++ program ++ "` could not be started: " ++ cause.message
  | compilationFailed messages => "compilation failed:\n" ++ messages
  | malformedOutput => "compiler output is not valid AST JSON"
  | noSyntaxTree => "compiler output contains no AST for any source"
  | contractNotFound name available =>
    "contract `" ++ name ++ "` not found (available: " ++ ", ".intercalate available ++ ")"
  | malformedTree contract detail => "unexpected AST shape in `" ++ contract ++ "`: " ++ detail

/-- The error of the operating system behind a failure. -/
def cause? : SourceFailure → Option SystemError
  | unreadable _ cause | compilerNotStarted _ cause => some cause
  | _ => none

end SourceFailure

/-- Why an inspection gives no report. -/
inductive InspectionFailure where
  | request (failure : RequestFailure)
  | source (failure : SourceFailure)
deriving DecidableEq, Inhabited

namespace InspectionFailure

/-- The text of the failure. -/
def message : InspectionFailure → String
  | request failure => "configuration error: " ++ failure.message
  | source failure => "adapter error: " ++ failure.message

/-- The text of the failure and of everything behind it, the outermost first. -/
def chain : InspectionFailure → List String
  | f@(request failure) => [f.message, failure.message]
  | f@(source failure) =>
    [f.message, failure.message] ++ failure.cause?.toList.map SystemError.message

end InspectionFailure

/-- Why a rule has no answer. -/
inductive RuleFailure where
  | missingFacts (function : String)
  | interrupted (cause : String)
deriving DecidableEq, Inhabited

namespace RuleFailure

/-- The text of the failure. -/
def message : RuleFailure → String
  | missingFacts function => "no statement facts recorded for `" ++ function ++ "`"
  | interrupted cause => "predicate panicked: " ++ cause

end RuleFailure

end TokenConformance
