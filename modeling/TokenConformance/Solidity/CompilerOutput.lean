import TokenConformance.Collection.OrderedMap
import TokenConformance.Failure
import TokenConformance.Json.Reader
import TokenConformance.Solidity.Reading

/-! # Compiler output

* `CompilerMessage`, `CompilerOutput`: what a compiler prints.
* `CompilerOutput.ofBytes?`: reads it.
* `CompilerOutput.units`: its source files, unless a message is an error or no source has a tree.
* `readUnits`: the two steps together.
-/

namespace TokenConformance.Solidity

/-- A message of the compiler. -/
structure CompilerMessage where
  severity : String
  message : String
  formatted : Option String
deriving DecidableEq, Inhabited

namespace CompilerMessage

/-- Reads a message. -/
def read (j : Json) : Option CompilerMessage := do
  let r ← j.record? ["severity", "message", "formattedMessage"]
  return {
    severity := ← r.withDefault "severity" "" Json.text?
    message := ← r.withDefault "message" "" Json.text?
    formatted := ← r.optional "formattedMessage" Json.text? }

/-- Whether the message is an error. The case of ASCII letters does not matter. -/
def isError (m : CompilerMessage) : Bool := m.severity.toList.map Char.toLower = "error".toList

/-- The text for readers. -/
def text (m : CompilerMessage) : String := m.formatted.getD m.message

end CompilerMessage

/-- What a compiler prints: the syntax tree of every source that has one, and its messages. -/
structure CompilerOutput where
  sources : OrderedMap String (Option SourceUnit)
  messages : List CompilerMessage

namespace CompilerOutput

/-- Reads the tree of a source, which stands under `AST` or `ast`. -/
def readSource (j : Json) : Option (Option SourceUnit) := do
  let r ← (j.renameField "ast" "AST").record? ["AST"]
  r.optional "AST" SourceUnit.read

/-- Reads the sources. Of two with one key the later one counts, but both must be readable. -/
def readSources : Json → Option (OrderedMap String (Option SourceUnit))
  | .object fields => do
    let named ← Json.namedFields? fields
    let sources ← named.mapM fun (key, j) => (readSource j).map (key, ·)
    return .ofList sources
  | _ => none

/-- Reads compiler output. -/
def ofJson? (j : Json) : Option CompilerOutput := do
  let r ← j.record? ["sources", "errors"]
  return {
    sources := ← r.withDefault "sources" .empty readSources
    messages := ← r.withDefault "errors" [] (Json.listOf? CompilerMessage.read) }

/-- Reads compiler output from its bytes. -/
def ofBytes? (bytes : List UInt8) : Option CompilerOutput := (Json.ofBytes? bytes).bind ofJson?

/-- The texts of the messages that are errors. -/
def errors (o : CompilerOutput) : List String :=
  (o.messages.filter CompilerMessage.isError).map CompilerMessage.text

/-- The syntax trees in the order of the source keys. A tree without a path has its key as path. -/
def trees (o : CompilerOutput) : List SourceUnit :=
  o.sources.entries.filterMap fun (key, tree) =>
    tree.map fun unit => if unit.path = "" then { unit with path := key } else unit

/-- The source files of a successful compilation. -/
def units (o : CompilerOutput) : Except SourceFailure (List SourceUnit) :=
  if o.errors ≠ [] then .error (.compilationFailed ("\n".intercalate o.errors))
  else if o.trees = [] then .error .noSyntaxTree
  else .ok o.trees

end CompilerOutput

/-- The source files in the bytes that a compiler printed. -/
def readUnits (bytes : List UInt8) : Except SourceFailure (List SourceUnit) :=
  match CompilerOutput.ofBytes? bytes with
  | none => .error .malformedOutput
  | some o => o.units

end TokenConformance.Solidity
