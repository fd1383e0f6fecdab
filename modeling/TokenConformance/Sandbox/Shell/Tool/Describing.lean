import TokenConformance.Sandbox.Calendar.Format
import TokenConformance.Sandbox.Shell.Printing
import TokenConformance.Sandbox.Shell.Tool.Listing
import TokenConformance.Sandbox.Shell.Tool.Removing

/-! # The program that describes files

* `Subject`: a file that is described; `Fact`: something that is known about it.
* `Subject.fact?`: the fact that a letter stands for.
* `Subject.described`: a format with its directives replaced.
* `stat`: describes files.
-/

namespace TokenConformance.Sandbox.Shell.Tool

open Sandbox.Text (Bytes)
open Sandbox (Kind Node)

/-- A file that is described. -/
structure Subject where
  name : Bytes
  number : Nat
  links : Nat
  node : Node
deriving Inhabited

/-- Something that is known about a file, by how it is written. -/
inductive Fact where
  | text (value : Bytes)
  | decimal (n : Nat)
  | octal (n : Nat)
  | hexadecimal (n : Nat)

/-- The numbers of a device: its kind, and which one of that kind it is. -/
def deviceNumbers : Kind → Nat × Nat
  | .device .null => (1, 3)
  | .device .zero => (1, 5)
  | .device .full => (1, 7)
  | .device .terminal => (5, 0)
  | _ => (0, 0)

/-- The bits that tell what something is, among those for its permissions. -/
def kindBits : Kind → Nat
  | .file _ | .program _ => 0o100000
  | .directory => 0o040000
  | .link _ => 0o120000
  | .pipe _ => 0o010000
  | .device _ => 0o020000

namespace Subject

/-- The time of a file in full. -/
def time (s : Subject) : Bytes :=
  (Calendar.Moment.ofSeconds s.node.time).format "%Y-%m-%d %H:%M:%S.%N %z".toList

/-- The fact that a letter stands for. -/
def fact? (s : Subject) : Char → Option Fact
  | 'n' => some (.text s.name)
  | 'N' =>
    match s.node.kind with
    | .link target => some (.text (inQuotes s.name ++ " -> ".toList ++ inQuotes target))
    | _ => some (.text (inQuotes s.name))
  | 'd' => some (.decimal 1)
  | 'D' => some (.hexadecimal 1)
  | 'i' => some (.decimal s.number)
  | 'a' => some (.octal s.node.mode)
  | 'A' => some (.text (kindLetter s.node.kind :: Sandbox.listed s.node.mode))
  | 'f' => some (.hexadecimal (kindBits s.node.kind + s.node.mode))
  | 'F' => some (.text (kindText s.node.kind).toList)
  | 'h' => some (.decimal s.links)
  | 'u' | 'g' => some (.decimal 0)
  | 'U' | 'G' => some (.text "root".toList)
  | 'm' => some (.text ['/'])
  | 's' => some (.decimal (sizeOf s.node.kind))
  | 'r' => some (.decimal (device s))
  | 'R' => some (.hexadecimal (device s))
  | 't' => some (.hexadecimal (deviceNumbers s.node.kind).1)
  | 'T' => some (.hexadecimal (deviceNumbers s.node.kind).2)
  | 'B' => some (.decimal 512)
  | 'b' => some (.decimal (2 * blocksOf s.node.kind))
  | 'o' => some (.decimal 4096)
  | 'w' | 'x' | 'y' | 'z' => some (.text s.time)
  | 'W' | 'X' | 'Y' | 'Z' => some (.decimal s.node.time)
  | _ => none
where
  /-- The number of a device. -/
  device (s : Subject) : Nat :=
    let (kind, which) := deviceNumbers s.node.kind
    kind * 256 + which

/-- The fact that two letters stand for. -/
def pairFact? (s : Subject) : Char → Char → Option Fact
  | 'H', 'd' => some (.decimal 0)
  | 'L', 'd' => some (.decimal 1)
  | 'H', 'r' => some (.decimal (deviceNumbers s.node.kind).1)
  | 'L', 'r' => some (.decimal (deviceNumbers s.node.kind).2)
  | _, _ => none

/-- A fact as a directive writes it. Of the flags each kind of fact has its own. -/
def written (d : Directive) : Fact → Bytes
  | .text value =>
    ({ d with flags := d.flags.filter (· = '-') }).pad (value.take (d.precision.getD value.length))
  | .decimal n => ({ d with flags := d.flags.filter (· ∈ ['-', '0']) }).unsigned 'u' n
  | .octal n => d.unsigned 'o' n
  | .hexadecimal n => d.unsigned 'x' n

/-- What a format says about a file. -/
structure Description where
  /-- The complaints that there are, each with the text before it. -/
  complaints : List (Bytes × Bytes)
  /-- The text after all complaints with its last byte first. -/
  text : Bytes
  /-- Whether no more can be said. -/
  isOver : Bool
deriving Inhabited

/-- The description with more text. -/
def Description.add (d : Description) (text : Bytes) : Description :=
  { d with text := text.reverseAux d.text }

/-- The description with a complaint. -/
def Description.complain (d : Description) (complaint : Bytes) : Description :=
  { d with complaints := d.complaints ++ [(d.text.reverse, complaint)], text := [] }

/-- The description with a warning. -/
def Description.warn (d : Description) (text : String) : Description :=
  d.complain ("warning: " ++ text).toList

/-- A directive, which stands after its percent sign, and what follows it. -/
def directive (s : Subject) (cs : Bytes) (d : Description) : Bytes × Description :=
  let own := cs.takeWhile fun c => c.isDigit || c ∈ "#-+.I' ".toList
  let flags := own.takeWhile fun c => !(c.isDigit && c ≠ '0') && c ≠ '.'
  let rest := own.drop flags.length
  let width := rest.takeWhile Char.isDigit
  let precision : Option Nat := match rest.drop width.length with
    | '.' :: digits => some (digitsValue (digits.takeWhile Char.isDigit))
    | _ => none
  let form : Directive := ⟨flags, digitsValue width, precision⟩
  let finish (text : Bytes) : Bytes × Description :=
    ([], { d.complain (inQuotes ('%' :: text) ++ ": invalid directive".toList) with isOver := true })
  match cs.drop own.length with
  | [] => if own = [] then ([], d.add ['%']) else finish own
  | '%' :: rest => if own = [] then (rest, d.add ['%']) else finish (own ++ ['%'])
  | c :: rest =>
    match (rest.head?.bind (s.pairFact? c)), s.fact? c with
    | some fact, _ => (rest.tail, d.add (written form fact))
    | none, some fact => (rest, d.add (written form fact))
    | none, none =>
      let d := if c = 'C' then
          d.complain
            (filled "failed to get security context of %: No data available" [inQuotes s.name])
        else d
      (rest, d.add ['?'])

/-- What a format says about a file, with escapes if that is wanted. The number bounds its length. -/
def describedBy (s : Subject) (hasEscapes : Bool) : Nat → Bytes → Description → Description
  | 0, _, d => d
  | _, [], d => d
  | n + 1, '%' :: rest, d =>
    let (rest, d) := s.directive rest d
    if d.isOver then d else s.describedBy hasEscapes n rest d
  | n + 1, '\\' :: rest, d =>
    if !hasEscapes then s.describedBy hasEscapes n rest (d.add ['\\'])
    else
      match rest with
      | [] => (d.warn "backslash at end of format").add ['\\']
      | 'x' :: digits =>
        let own := (digits.take 2).takeWhile Text.isHexDigit
        if own = [] then
          s.describedBy hasEscapes n digits ((d.warn "unrecognized escape '\\x'").add ['x'])
        else
          s.describedBy hasEscapes n (digits.drop own.length)
            (d.add [Char.ofNat (digitsIn 16 own).1])
      | '"' :: rest => s.describedBy hasEscapes n rest (d.add ['"'])
      | c :: others =>
        match escape? rest with
        | some (e, rest) => s.describedBy hasEscapes n rest (d.add [e])
        | none =>
          s.describedBy hasEscapes n others
            ((d.warn ("unrecognized escape '\\" ++ String.ofList [c, '\''])).add [c])
  | n + 1, c :: rest, d => s.describedBy hasEscapes n rest (d.add [c])

/-- What is said about a file if nothing else is wanted. -/
def plainFormat (s : Subject) : String :=
  let name := match s.node.kind with
    | .link target => String.ofList ((s.name ++ " -> ".toList ++ target).flatMap fun c =>
        if c = '%' then ['%', '%'] else [c])
    | _ => "%n"
  let device := match s.node.kind with
    | .device _ => "%-5h Device type: %Hr,%Lr"
    | _ => "%h"
  "  File: " ++ name ++ "\n  Size: %-10s\tBlocks: %-10b IO Block: %-6o %F\n" ++
    "Device: %Hd,%Ld\tInode: %-10i  Links: " ++ device ++ "\n" ++
    "Access: (%04a/%10.10A)  Uid: (%5u/%8U)   Gid: (%5g/%8G)\n" ++
    "Access: %x\nModify: %y\nChange: %z\n Birth: %w\n"

end Subject

/-- What is said about a file in few words. -/
def tersely : String := "%n %s %b %f %u %g %D %i %h %t %T %X %Y %Z %W %o\n"

/-- The file that a path names. A hyphen names what there is to read. -/
def subjectOf (m : Machine) (followsLinks : Bool) (path : Bytes) : Except SystemError Subject := do
  let found ←
    if path = ['-'] then m.nodeOf "/dev/stdin".toList
    else if followsLinks then m.nodeOf path
    else m.files.nodeNamed m.here path
  return ⟨path, found.1, linksTo m found.1, found.2⟩

/-- Describes files. -/
def stat : Tool := fun c =>
  c.withOptions
    [flag 'L' "dereference", flag 'f' "file-system", flag 't' "terse", valued 'c' "format",
      longValued "printf", longValued "cached"] fun g => do
    if g.operands = [] then return ← c.misused 1 "missing operand".toList
    let isPrinted := g.lastOf? ["c", "printf"] = some "printf"
    let format? := (g.lastOf? ["c", "printf"]).bind g.value?
    let mut isDone := true
    for path in g.operands do
      match subjectOf (← get) (g.has "L") path with
      | .error e =>
        let verb := if g.has "f" then "cannot read file system information for " else "cannot statx "
        isDone := (← c.refuse (verb.toList ++ inQuotes path) e) && isDone
      | .ok s =>
        let format := format?.getD ((if g.has "t" then tersely else s.plainFormat).toList)
        let d := s.describedBy isPrinted (format.length + 1) format default
        for (text, complaint) in d.complaints do
          print text
          c.say complaint
        if d.isOver then return 1
        print d.text.reverse
        if format?.isSome && !isPrinted then print ['\n']
        if d.complaints.any fun k => !"warning: ".toList.isPrefixOf k.2 then isDone := false
    return Call.statusOf isDone

end TokenConformance.Sandbox.Shell.Tool
