import TokenConformance.Sandbox.Shell.Tool.Amounts

/-! # Programs that copy what they read

* `Marking`: how `cat` marks what it copies; `Marking.mark` does it.
* `cat`, `tee`: copy files.
* `Blocks`, `dd`: copies blocks of bytes.
* `truncate`: gives files a size.
-/

namespace TokenConformance.Sandbox.Shell.Tool

open Sandbox.Text (Bytes)

/-! ## Whole files -/

/-- How what is copied is marked. -/
structure Marking where
  numbersAll : Bool
  numbersFilled : Bool
  squeezes : Bool
  marksEnds : Bool
  marksTabs : Bool
  marksOthers : Bool
deriving DecidableEq, Inhabited

/-- Where a copy is. -/
structure Copy where
  /-- The number of the last line that has one. -/
  number : Nat
  /-- How many lines without characters have just ended, or nothing inside a line. -/
  blanks : Option Nat
  /-- What has been written, the last byte first. -/
  written : Bytes
deriving DecidableEq, Inhabited

/-- A byte that can be seen. -/
def visible (c : Char) : Bytes :=
  let low (n : Nat) : Bytes :=
    if n < 32 then ['^', Char.ofNat (n + 64)]
    else if n = 127 then ['^', '?']
    else [Char.ofNat n]
  if c.toNat < 128 then low c.toNat else 'M' :: '-' :: low (c.toNat - 128)

namespace Marking

/-- A byte inside a line. -/
def shown (k : Marking) (c : Char) : Bytes :=
  if c = '\t' then if k.marksTabs then ['^', 'I'] else [c]
  else if k.marksOthers then visible c
  else [c]

/-- The copy with the number of a line. -/
def withNumber (s : Copy) : Copy :=
  let text := paddedNumber 6 (s.number + 1) ++ ['\t']
  { s with number := s.number + 1, written := text.reverseAux s.written }

/-- The copy after a line end. -/
def endLine (k : Marking) (s : Copy) : Copy :=
  let close (s : Copy) : Copy :=
    { s with written := '\n' :: (if k.marksEnds then '$' :: s.written else s.written) }
  match s.blanks with
  | none => close { s with blanks := some 0 }
  | some n =>
    if n ≥ 1 && k.squeezes then s
    else
      let s := { s with blanks := some (n + 1) }
      close (if k.numbersAll && !k.numbersFilled then withNumber s else s)

/-- The copy after some text. -/
def mark (k : Marking) : Bytes → Copy → Copy
  | [], s => s
  | '\n' :: rest, s => mark k rest (k.endLine s)
  | c :: rest, s =>
    let s := if s.blanks.isSome && (k.numbersAll || k.numbersFilled) then withNumber s else s
    let text := if c = '\r' && k.marksEnds && rest.head? = some '\n' then ['^', 'M'] else k.shown c
    mark k rest { s with blanks := none, written := text.reverseAux s.written }

end Marking

/-- The options of `cat`. -/
def catForms : List OptionForm :=
  [flag 'A' "show-all", flag 'b' "number-nonblank", flag 'e' "", flag 'E' "show-ends",
    flag 'n' "number", flag 's' "squeeze-blank", flag 't' "", flag 'T' "show-tabs", flag 'u' "",
    flag 'v' "show-nonprinting"]

/-- Whether a path leads to the file to which the output goes, and there is more to read in it. -/
def feedsItself (m : Machine) (path : Bytes) : Bool :=
  match m.connected? 1, if path = ['-'] then m.connected? 0 else none, m.nodeOf path with
  | some (.file n position access), some (.file k read _), _ =>
    n = k && read < (m.contentOf n).length && (access.appends || read < position)
  | some (.file n position access), none, .ok (k, _) =>
    n = k && m.contentOf n ≠ [] && (access.appends || 0 < position)
  | _, _, _ => false

/-- Writes what it reads. -/
def cat : Tool := fun c => c.withOptions catForms fun g => do
  let k : Marking :=
    { numbersAll := g.has "n"
      numbersFilled := g.has "b"
      squeezes := g.has "s"
      marksEnds := g.has "E" || g.has "e" || g.has "A"
      marksTabs := g.has "T" || g.has "t" || g.has "A"
      marksOthers := g.has "v" || g.has "e" || g.has "t" || g.has "A" }
  let isPlain := k = ⟨false, false, false, false, false, false⟩
  let mut s : Copy := ⟨0, some 0, []⟩
  let mut status := 0
  for path in Call.orInput g.operands do
    if feedsItself (← get) path then
      c.say (named path ++ ": input file is output file".toList)
      status := 1
    else
      match ← Call.contentOf path with
      | .error e =>
        c.say (Call.plainComplaint path e)
        status := 1
      | .ok text =>
        if isPlain then printDirectly text
        else
          s := k.mark text { s with written := [] }
          printDirectly s.written.reverse
  return status

/-- Writes what it reads to files too. -/
def tee : Tool := fun c =>
  c.withOptions [flag 'a' "append", flag 'i' "ignore-interrupts", flag 'p' "",
    longVariant "output-error"] fun g => do
    let how : Opening := if g.has "a" then .appending else .writing
    let opened ← g.operands.mapM fun path => do
      match ← openPath how path with
      | .ok channel => return some channel
      | .error e =>
        let _ ← c.refuse (named path) e
        return none
    match ← readAll 0 with
    | .error e => c.fail 1 ("read error: ".toList ++ describe e)
    | .ok text =>
      printDirectly text
      for channel in opened.filterMap id do
        modify fun m => ((m.written channel text).toOption).getD m
      return Call.statusOf (opened.all Option.isSome)

/-! ## Blocks -/

/-- The number that a text such as `2x4k` stands for. -/
def product? (text : Bytes) : Option Nat := do
  let factors ← (text.splitOn 'x').mapM fun part =>
    if part = "".toList || !(part.headD ' ').isDigit then none else size? part
  return factors.foldl Nat.mul 1

/-- The operands of `dd` with values. -/
def blockNames : List String :=
  ["if", "of", "bs", "ibs", "obs", "cbs", "count", "skip", "seek", "iseek", "oseek", "conv",
    "iflag", "oflag", "status"]

/-- What can be done with the bytes that are copied. -/
def conversionNames : List String :=
  ["ascii", "ebcdic", "ibm", "block", "unblock", "lcase", "ucase", "sparse", "swab", "sync",
    "excl", "nocreat", "notrunc", "noerror", "fdatasync", "fsync"]

/-- What is copied. -/
structure Blocks where
  operands : List (Bytes × Bytes)
deriving Inhabited

namespace Blocks

/-- The value of an operand. -/
def value? (b : Blocks) (name : String) : Option Bytes :=
  (b.operands.reverse.find? fun o => o.1 = name.toList).map (·.2)

/-- The names in an operand that is a list. -/
def names (b : Blocks) (name : String) : List Bytes :=
  (b.operands.filter fun o => o.1 = name.toList).flatMap fun o => o.2.splitOn ','

/-- Whether a name is in an operand that is a list. -/
def has (b : Blocks) (list name : String) : Bool := (b.names list).contains name.toList

/-- The number that an operand gives. -/
def number (b : Blocks) (name : String) (otherwise : Nat) : Nat :=
  ((b.value? name).bind product?).getD otherwise

/-- What is wrong with the operands, and whether it is said how to find out about them. -/
def fault? (b : Blocks) : Option (Bytes × Bool) :=
  let unknown := b.operands.find? fun o => !blockNames.any fun n => n.toList = o.1
  let conversion := (b.names "conv").find? fun n => !conversionNames.any fun k => k.toList = n
  let isNumber (o : Bytes × Bytes) : Bool :=
    ["bs", "ibs", "obs", "cbs", "count", "skip", "seek", "iseek", "oseek"].any fun n =>
      n.toList = o.1
  let isBad (o : Bytes × Bytes) : Bool :=
    let text := if o.2.getLast? = some 'B' then o.2.dropLast else o.2
    (product? text).isNone ||
      (product? text = some 0 && ["bs", "ibs", "obs"].any fun n => n.toList = o.1)
  let number := b.operands.find? fun o => isNumber o && isBad o
  let status := (b.value? "status").filter fun s =>
    !(["none", "noxfer", "progress"].any fun k => k.toList = s)
  match unknown, conversion, number, status with
  | some o, _, _, _ =>
    some ("unrecognized operand ".toList ++
      inSingleQuotes (if o.2 = [] then o.1 else o.1 ++ '=' :: o.2), true)
  | _, some n, _, _ => some ("invalid conversion: ".toList ++ inSingleQuotes n, true)
  | _, _, _, some s => some ("invalid status flag: ".toList ++ inSingleQuotes s, true)
  | _, _, some o, _ => some ("invalid number: ".toList ++ inSingleQuotes o.2, false)
  | _, _, _, _ => none

/-- A text in which two neighbours change places. -/
def swapped : Bytes → Bytes
  | a :: b :: rest => b :: a :: swapped rest
  | rest => rest

/-- The bytes after all conversions. -/
def converted (b : Blocks) (size : Nat) (text : Bytes) : Bytes :=
  let text := if b.has "conv" "swab" then swapped text else text
  let text := if b.has "conv" "ucase" then text.map Char.toUpper else text
  let text := if b.has "conv" "lcase" then text.map Char.toLower else text
  if b.has "conv" "sync" then
    text ++ List.replicate ((size - text.length % size) % size) '\x00'
  else text

/-- How many whole blocks there are, and whether there is a part of one. -/
def records (size length : Nat) : Bytes :=
  filled "%+%" [Bytes.ofInt (length / size : Nat), if length % size = 0 then ['0'] else ['1']]

/-- What is said about a copy. -/
def summary (read written : Bytes) (size : Nat) : List Bytes :=
  [read ++ " records in".toList, written ++ " records out".toList,
    Bytes.ofInt size ++ (if size = 1 then " byte" else " bytes").toList ++
      " copied, 0.0001 s, 1.0 MB/s".toList]

end Blocks

/-- Copies blocks of bytes. -/
def dd : Tool := fun c => do
  let arguments := if c.arguments.head? = some ['-', '-'] then c.arguments.drop 1 else c.arguments
  let b : Blocks := ⟨arguments.map fun a => (a.takeWhile (· ≠ '='), (a.dropWhile (· ≠ '=')).drop 1)⟩
  match b.fault? with
  | some (text, true) => c.misused 1 text
  | some (text, false) => c.fail 1 text
  | none =>
    let size := b.number "bs" (b.number "ibs" 512)
    let outSize := b.number "bs" (b.number "obs" 512)
    let amount (name flags flag : String) (unit : Nat) : Nat :=
      let text := (b.value? name).getD ['0']
      if text.getLast? = some 'B' then (product? text.dropLast).getD 0
      else (product? text).getD 0 * if b.has flags flag then 1 else unit
    let skip := amount "skip" "iflag" "skip_bytes" size + amount "iseek" "iflag" "skip_bytes" size
    let most? := (b.value? "count").map fun _ => amount "count" "iflag" "count_bytes" size
    let seek := amount "seek" "oflag" "seek_bytes" outSize + amount "oseek" "oflag" "seek_bytes" outSize
    let part (rest : Bytes) : Bytes × Bytes :=
      let rest := rest.drop skip
      match most? with
      | some n => (rest.take n, rest.drop n)
      | none => (rest, [])
    let found ← match b.value? "if" with
      | none => readWith 0 (fun _ => false) part
      | some path => do
        match ← openPath .reading path with
        | .error e => do
          let _ ← c.refuse ("failed to open ".toList ++ inQuotes path) e
          return 1
        | .ok _ =>
          pure ((← readPath path).map fun content => (part content).1)
    match found with
    | .error e =>
      c.fail 1 ("error reading ".toList ++ inQuotes ((b.value? "if").getD "standard input".toList)
        ++ ": ".toList ++ describe e)
    | .ok text =>
      let result := b.converted size text
      let isDone ← match b.value? "of" with
        | none => do
          printDirectly (List.replicate seek '\x00' ++ result)
          pure true
        | some path => do
          let old := ((← get).nodeOf path).toOption.map fun (n, _) => n
          let m ← get
          let before := (old.map m.contentOf).getD []
          let isKept := b.has "conv" "notrunc" || b.has "oflag" "append"
          let content :=
            if b.has "oflag" "append" then before ++ result
            else if isKept then overwritten before seek result
            else before.take seek ++ List.replicate (seek - before.length) '\x00' ++ result
          let isAllowed : Except SystemError Unit :=
            if b.has "conv" "excl" && old.isSome then .error .alreadyThere
            else if b.has "conv" "nocreat" && old.isNone then .error .notFound
            else .ok ()
          match isAllowed with
          | .error e => c.refuse ("failed to open ".toList ++ inQuotes path) e
          | .ok () =>
            match ← Call.putPath .writing path content with
            | .ok () => pure true
            | .error e => c.refuse ("failed to open ".toList ++ inQuotes path) e
      if !isDone then return 1
      let lines := Blocks.summary (Blocks.records size text.length)
        (Blocks.records outSize result.length) result.length
      match (b.value? "status").map String.ofList with
      | some "none" => return 0
      | some "noxfer" => for line in lines.take 2 do complain line
      | _ => for line in lines do complain line
      return 0

/-! ## Sizes -/

/-- The size that a file gets, which may depend on the one that it has. -/
def newSize? (before : Nat) (text : Bytes) : Option Nat :=
  match text with
  | '+' :: rest => (size? rest).map (before + ·)
  | '-' :: rest => (size? rest).map (before - ·)
  | '<' :: rest => (size? rest).map (min before)
  | '>' :: rest => (size? rest).map (max before)
  | '/' :: rest => ((size? rest).filter (0 < ·)).map fun n => before / n * n
  | '%' :: rest => ((size? rest).filter (0 < ·)).map fun n => (before + n - 1) / n * n
  | _ => size? text

/-- Gives files a size. -/
def truncate : Tool := fun c =>
  c.withOptions [flag 'c' "no-create", flag 'o' "io-blocks", valued 'r' "reference",
    valued 's' "size"] fun g => do
    let sizeText? := g.value? "s"
    let m ← get
    let sizeOfReference (path : Bytes) : Except SystemError Nat := do
      return (m.contentOf (← m.nodeOf path).1).length
    match sizeText?, g.value? "r" with
    | none, none => c.misused 1 "you must specify either '--size' or '--reference'".toList
    | _, reference? =>
      let base? := reference?.map sizeOfReference
      match base?, sizeText?.filter fun s => (newSize? 0 s).isNone with
      | some (.error e), _ =>
        c.fail 1 (Call.quotedComplaint "cannot stat " (reference?.getD []) e)
      | _, some wrong => c.fail 1 ("Invalid number: ".toList ++ inSingleQuotes wrong)
      | _, none =>
        if g.operands = [] then return ← c.misused 1 "missing file operand".toList
        Call.forEach g.operands fun path => do
          let m ← get
          let old := (m.nodeOf path).toOption.map (·.1)
          if old.isNone && g.has "c" then return true
          let before := (old.map m.contentOf).getD []
          let base : Nat := match base? with
            | some (.ok n) => n
            | _ => before.length
          let size := match sizeText? with
            | some s => (newSize? base s).getD 0
            | none => base
          let content := before.take size ++ List.replicate (size - before.length) '\x00'
          match ← Call.putPath .writing path content with
          | .ok () => return true
          | .error e =>
            c.refuse ("cannot open ".toList ++ inQuotes path ++ " for writing".toList) e

end TokenConformance.Sandbox.Shell.Tool
