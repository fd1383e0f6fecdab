import TokenConformance.Sandbox.Shell.Tool.Amounts
import TokenConformance.Sandbox.Shell.Tool.Starting

/-! # A program that cuts a file into pieces

* `pieces`, `linePieces`, `chunks`, `lineChunks`, `dealtOut`: the ways to cut.
* `Partition`, `Partition.cut`: a way with its size.
* `endings`: how the names of the pieces end.
* `split`: writes the pieces to files, or gives them to a command.
-/

namespace TokenConformance.Sandbox.Shell.Tool

open Sandbox.Text (Bytes)

/-! ## Pieces -/

/-- A list in pieces of a size. The number bounds how many pieces there are. -/
def pieces {α : Type} (size : Nat) : Nat → List α → List (List α)
  | 0, _ => []
  | _, [] => []
  | n + 1, xs => xs.take size :: pieces size n (xs.drop size)

/-- Whole records in pieces that have no more than some bytes. A record that is longer is cut. The
number bounds how many pieces there are. -/
def linePieces (mark : Char) (size : Nat) : Nat → Bytes → List Bytes
  | 0, _ => []
  | _, [] => []
  | n + 1, bytes =>
    let most := bytes.take size
    if most.length < size then [bytes]
    else
      let cut := match (most.reverse.dropWhile (· ≠ mark)).reverse with
        | [] => most
        | cut => cut
      cut :: linePieces mark size n (bytes.drop cut.length)

/-- Where each of some pieces of a text ends, which have nearly the same size. -/
def chunkEnd (length count i : Nat) : Nat :=
  (i + 1) * (length / count) + min (i + 1) (length % count)

/-- A text in some pieces of nearly the same size. -/
def chunks (count : Nat) (text : Bytes) : List Bytes :=
  (List.range count).map fun i =>
    let start := if i = 0 then 0 else chunkEnd text.length count (i - 1)
    (text.drop start).take (chunkEnd text.length count i - start)

/-- Records in some pieces. Each one goes to the piece in which it would start if records did not
count. -/
def lineChunks (length count : Nat) (records : List Bytes) : List Bytes :=
  let (_, placed) := records.foldl
    (fun (s : Nat × List (Nat × Bytes)) record =>
      let i := ((List.range count).find? fun i => s.1 < chunkEnd length count i).getD (count - 1)
      (s.1 + record.length, (i, record) :: s.2)) (0, [])
  (List.range count).map fun i =>
    ((placed.filter fun p => p.1 = i).reverse.map (·.2)).flatten

/-- Records that are dealtOut out to some pieces. -/
def dealtOut (count : Nat) (records : List Bytes) : List Bytes :=
  (List.range count).map fun i =>
    ((records.zipIdx.filter fun r => r.2 % count = i).map (·.1)).flatten

/-- How a text is cut. -/
inductive Partition where
  | bytes (size : Nat)
  | lineBytes (size : Nat)
  | lines (count : Nat)
  | chunks (count : Nat)
  | lineChunks (count : Nat)
  | dealtOut (count : Nat)
deriving DecidableEq, Inhabited

/-- The pieces of a text whose records end with a mark. -/
def Partition.cut (mark : Char) (text : Bytes) : Partition → List Bytes
  | .bytes size => pieces size text.length text
  | .lineBytes size => linePieces mark size text.length text
  | .lines count =>
    let records := endedBy mark text
    (pieces count records.length records).map List.flatten
  | .chunks count => Tool.chunks count text
  | .lineChunks count => Tool.lineChunks text.length count (endedBy mark text)
  | .dealtOut count => Tool.dealtOut count (endedBy mark text)

/-- How many pieces there are, if that does not depend on the text. -/
def Partition.count? : Partition → Option Nat
  | .chunks count | .lineChunks count | .dealtOut count => some count
  | _ => none

/-! ## Names -/

/-- The name of a piece, whose end counts in letters or digits. -/
def pieceName (digits : Bytes) (width n : Nat) : Bytes :=
  ((List.range width).map fun i =>
    digits.getD (n / Nat.pow digits.length (width - 1 - i) % digits.length) 'a')

/-- The end of a name that gets longer when there are no more of its length. The first number bounds
how much longer. -/
def growingName (digits : Bytes) : Nat → Nat → Nat → Bytes
  | 0, width, n => pieceName digits width n
  | k + 1, width, n =>
    let most := (digits.length - 1) * Nat.pow digits.length (width - 1)
    if n < most then pieceName digits width n
    else digits.getLastD 'z' :: growingName digits k width.succ (n - most)

/-! ## The program -/

/-- The options of the program. -/
def splitForms : List OptionForm :=
  [valued 'a' "suffix-length", longValued "additional-suffix", valued 'b' "bytes",
    valued 'C' "line-bytes", flag 'd' "", longVariant "numeric-suffixes", flag 'x' "",
    longVariant "hex-suffixes", flag 'e' "elide-empty-files", longValued "filter",
    valued 'l' "lines", valued 'n' "number", valued 't' "separator", flag 'u' "unbuffered",
    longFlag "verbose"]

/-- Which pieces there are: their number, after the number of the only one that is written. -/
def chunkNumbers? (text : Bytes) : Except Bytes (Option Nat × Nat) :=
  let number := text.takeWhile Char.isDigit
  let count? (text : Bytes) : Except Bytes Nat :=
    match (digitsValue? text).filter (0 < ·) with
    | some n => .ok n
    | none => .error ("invalid number of chunks: ".toList ++ inSingleQuotes text)
  match text.drop number.length with
  | '/' :: rest =>
    if number = [] then .error ("invalid number of chunks: ".toList ++ inSingleQuotes text)
    else do
      let count ← count? rest
      let k := digitsValue number
      if 0 < k && k ≤ count then return (some k, count)
      else throw ("invalid chunk number: ".toList ++ inSingleQuotes number)
  | _ => do return (none, ← count? text)

/-- The way that options name, with the number of the only piece that is written. -/
def partitionOf (g : Given) : Except Bytes (Partition × Option Nat) :=
  let kind := (g.lastOf? ["b", "C", "l", "n"]).getD "l"
  let text := (g.value? kind).getD "1000".toList
  if kind = "n" then
    let text := text.dropWhile Text.isSpace
    let (make, rest) : (Nat → Partition) × Bytes :=
      if "r/".toList.isPrefixOf text then (.dealtOut, text.drop 2)
      else if "l/".toList.isPrefixOf text then (.lineChunks, text.drop 2)
      else (.chunks, text)
    do
      let (only, count) ← chunkNumbers? rest
      return (make count, only)
  else
    match (size? text).filter (0 < ·), kind with
    | none, _ =>
      let noun := if kind = "l" then "lines" else "bytes"
      .error (filled "invalid number of %: " [noun.toList] ++ inSingleQuotes text)
    | some size, "b" => .ok (.bytes size, none)
    | some size, "C" => .ok (.lineBytes size, none)
    | some size, _ => .ok (.lines size, none)

/-- The mark at the end of records. -/
def separatorOf (text : Bytes) : Except Bytes Char :=
  match text with
  | [] => .error "empty record separator".toList
  | [c] => .ok c
  | ['\\', '0'] => .ok '\x00'
  | _ => .error ("multi-character separator ".toList ++ inSingleQuotes text)

/-- Arguments in which a number alone says how many lines there are in a piece. -/
def withLineNumbers (arguments : List Bytes) : List Bytes :=
  arguments.map fun a =>
    match a with
    | '-' :: digits => if (digitsValue? digits).isSome then '-' :: 'l' :: digits else a
    | _ => a

/-- Gives a piece to a command, which gets to know its name. -/
def runFilter (c : Call) (command name piece : Bytes) : Action Nat := do
  let m ← get
  let file := "FILE".toList
  set (m.bind file (some ⟨some name, true, false⟩))
  let shell := (m.lookup? "SHELL".toList).getD "/bin/sh".toList
  let status ← c.runOn shell command piece
  modify fun after => after.bind file (m.bindings.lookup file)
  return status

/-- Cuts a file into pieces. -/
def split : Tool := fun call => do
  let c : Call := { call with arguments := withLineNumbers call.arguments }
  c.withOptions splitForms fun g => c.withAtMost 2 g.operands do
    let path := g.operands.headD ['-']
    let start := (g.operands[1]?).getD ['x']
    let ways := g.options.filter fun o => o.1 ∈ ["b", "C", "l", "n"]
    if 1 < ways.length then return ← c.misused 1 "cannot split in more than one way".toList
    let ending := (g.value? "additional-suffix").getD []
    let mark := match g.value? "t" with
      | some text => separatorOf text
      | none => .ok '\n'
    let width := match g.value? "a" with
      | some text =>
        match digitsValue? text with
        | some n => Except.ok (if n = 0 then none else some n)
        | none => .error ("invalid suffix length: ".toList ++ inSingleQuotes text)
      | none => .ok none
    match width, partitionOf g, mark with
    | .error text, _, _ | _, .error text, _ | _, _, .error text => c.fail 1 text
    | .ok width, .ok (way, only), .ok mark =>
      if '/' ∈ ending then
        return ← c.misused 1 (filled "invalid suffix %, contains directory separator"
          [inSingleQuotes ending])
      let digits : Bytes :=
        if g.has "d" || g.has "numeric-suffixes" then "0123456789".toList
        else if g.has "x" || g.has "hex-suffixes" then "0123456789abcdef".toList
        else "abcdefghijklmnopqrstuvwxyz".toList
      let first? := ((g.value? "numeric-suffixes").or (g.value? "hex-suffixes")).bind digitsValue?
      let first := first?.getD 0
      let last : Nat := match way.count? with
        | some count => count - 1 + (if first < count then first else 0)
        | none => 0
      let needed : Nat := ((List.range 64).find? fun w => last < Nat.pow digits.length (w + 1)).getD 0 + 1
      if way.count?.isSome && width.any (· < needed) then
        return ← c.fail 1 (filled "the suffix length needs to be at least %" [Bytes.ofInt needed])
      if only.isSome && g.has "filter" then
        return ← c.misused 1
          "--filter does not process a chunk extracted to stdout".toList
      match ← Call.contentOf path with
      | .error e =>
        c.fail 1 (Call.openOrRead
          (fun p e => "cannot open ".toList ++ inQuotes p ++ " for reading: ".toList ++ describe e)
          Call.plainComplaint path e)
      | .ok content =>
        let found := way.cut mark content
        match only with
        | some k =>
          print ((found[k - 1]?).getD [])
          return 0
        | none =>
          let found := if g.has "e" then found.filter (· ≠ []) else found
          let isGrowing := width.isNone && first?.isNone && way.count?.isNone
          let width := width.getD (max 2 needed)
          for (piece, i) in found.zipIdx do
            if !isGrowing && first + i ≥ Nat.pow digits.length width then
              return ← c.fail 1 "output file suffixes exhausted".toList
            let suffix := if isGrowing then growingName digits i width i
              else pieceName digits width (first + i)
            let name := start ++ suffix ++ ending
            match g.value? "filter" with
            | some command =>
              if g.has "verbose" then print (filled "executing with FILE=%\n" [inSingleQuotes name])
              flush
              let status ← runFilter c command name piece
              if status ≠ 0 then
                return ← c.fail status (filled "with FILE=%, exit % from command: %"
                  [name, Bytes.ofInt status, command])
            | none =>
              if g.has "verbose" then print (filled "creating file %\n" [inQuotes name])
              match ← Call.putPath .writing name piece with
              | .ok () => pure ()
              | .error e => return ← c.fail 1 (Call.plainComplaint name e)
          return 0

end TokenConformance.Sandbox.Shell.Tool
