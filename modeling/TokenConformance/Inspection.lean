import TokenConformance.Digest.Sha256
import TokenConformance.Hierarchy.Flatten
import TokenConformance.Report.Basic
import TokenConformance.Settings
import TokenConformance.Solidity.CompilerOutput
import TokenConformance.Standard.Name
import TokenConformance.Text.Hex
import TokenConformance.Text.Utf8

/-! # Inspections

* `World`: how files are read and written and programs are run, in a monad of the caller's choice.
* `Request`: what is to be checked.
* `isPrecompiled`: whether a path names compiler output and not a source that is to be compiled.
* `compile`: the source files behind a path, by reading or by compiling them.
* `inspectWith`, `inspect`: the whole check. The standard and the name of the contract are looked
  at before the file is read, and the file is read before it is compiled.
-/

namespace TokenConformance

open Solidity

/-- What a program that has ended leaves behind. -/
structure ProgramResult where
  /-- Whether the exit status is zero. -/
  succeeded : Bool
  output : List UInt8
  errors : List UInt8

/-- How the world outside is reached. -/
structure World (m : Type → Type) where
  read : String → m (Except SystemError (List UInt8))
  write : String → String → m (Except SystemError Unit)
  start : String → List String → m (Except SystemError ProgramResult)

/-- What is to be checked. -/
structure Request where
  source : String
  contract : String
  standard : String
deriving DecidableEq, Inhabited

/-- A file that has been read. -/
structure SourceFile where
  path : String
  bytes : List UInt8

namespace SourceFile

/-- What a report says about the file. -/
def info (s : SourceFile) : SourceInfo :=
  ⟨some s.path, UInt64.ofNat s.bytes.length, "sha256", Text.Hex.encode (Sha256.digest s.bytes)⟩

end SourceFile

/-! ## Source files -/

/-- The last part of a path, unless it is a step upwards. -/
def fileName? (path : List Char) : Option (List Char) :=
  let parts := (path.splitOn '/').filter fun p => p ≠ [] ∧ p ≠ ['.']
  parts.getLast?.filter (· ≠ ['.', '.'])

/-- What follows the last dot of a file name, unless the only dot is its first character. -/
def extension? (name : List Char) : Option (List Char) :=
  if '.' ∈ name.drop 1 then some (name.reverse.takeWhile (· ≠ '.')).reverse else none

/-- Whether a path names compiler output: its extension is `json` in any case. -/
def isPrecompiled (path : String) : Bool :=
  match (fileName? path.toList).bind extension? with
  | some extension => extension.map Char.toLower = "json".toList
  | none => false

/-- The source files that a finished compiler has printed. -/
def unitsOf (result : ProgramResult) : Except SourceFailure (List SourceUnit) :=
  if result.succeeded then readUnits result.output
  else .error (.compilationFailed (Text.trim (Text.Utf8.replacing result.errors)))

section

variable {m : Type → Type} [Monad m]

/-- The source files behind a file: those in it, or those that the compiler prints for it. -/
def compile (w : World m) (s : Settings) (source : SourceFile) :
    m (Except SourceFailure (List SourceUnit)) :=
  if isPrecompiled source.path then return readUnits source.bytes
  else do
    let arguments := s.compilerArguments ++ ["--combined-json", "ast", source.path]
    match ← w.start s.compiler arguments with
    | .error cause => return .error (.compilerNotStarted s.compiler cause)
    | .ok result => return unitsOf result

/-! ## Checks -/

/-- The report on source files that have been compiled. -/
def reportOn (source : SourceFile) (units : List SourceUnit) (standard : Standard)
    (contract : String) (libraryPrefixes : List String) (tool : Tool) :
    Except SourceFailure Report := do
  let flat ← Hierarchy.flatten units contract source.path libraryPrefixes
  let categories := standard.ruleSet.run flat
  return .ofCheck tool source.info ⟨flat.name, standard.name, Report.currentRules⟩
    (.ok flat.warnings) categories (verdict categories)

/-- Makes a check with a way to read files and a way to compile them. -/
def inspectWith (read : String → m (Except SystemError (List UInt8)))
    (compile : SourceFile → m (Except SourceFailure (List SourceUnit))) (r : Request)
    (libraryPrefixes : List String) (tool : Tool) : m (Except InspectionFailure Report) :=
  match Standard.parse r.standard with
  | .error failure => return .error (.request failure)
  | .ok standard =>
    if Text.trimmed r.contract.toList = [] then return .error (.request .emptyContractName)
    else do
      match ← read r.source with
      | .error cause => return .error (.source (.unreadable r.source cause))
      | .ok bytes =>
        match ← compile ⟨r.source, bytes⟩ with
        | .error failure => return .error (.source failure)
        | .ok units =>
          match reportOn ⟨r.source, bytes⟩ units standard r.contract libraryPrefixes tool with
          | .error failure => return .error (.source failure)
          | .ok report => return .ok report

/-- Makes a check. -/
def inspect (w : World m) (s : Settings) (r : Request) (tool : Tool) :
    m (Except InspectionFailure Report) :=
  inspectWith w.read (compile w s) r s.libraryPrefixes tool

end

end TokenConformance
