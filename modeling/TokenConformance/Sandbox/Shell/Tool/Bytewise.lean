import TokenConformance.Sandbox.Shell.Tool.Amounts
import TokenConformance.Sandbox.Shell.Tool.Basic

/-! # The program that compares files byte by byte

* `differences`: the bytes in which two texts differ.
* `cmp`: tells the first byte in which files differ, or all of them.
-/

namespace TokenConformance.Sandbox.Shell.Tool

open Sandbox.Text (Bytes)

/-- A byte as it is shown, with a mark for those that cannot be. -/
def shownByte (c : Char) : Bytes :=
  let n := c.toNat
  let (before, n) : Bytes × Nat := if 128 ≤ n then (['M', '-'], n - 128) else ([], n)
  before ++
    if n < 32 then ['^', Char.ofNat (n + 64)]
    else if n = 127 then ['^', '?'] else [Char.ofNat n]

/-- A byte as three octal digits, with blanks for zeros at the beginning. -/
def octalByteText (c : Char) : Bytes := padded 3 (Nat.toDigits 8 c.toNat)

/-- The bytes in which two texts differ, with their places counted from one. -/
def differences : Nat → Bytes → Bytes → List (Nat × Char × Char)
  | n, a :: as, b :: bs =>
    let rest := differences (n + 1) as bs
    if a = b then rest else (n + 1, a, b) :: rest
  | _, _, _ => []

/-- The program that tells the first byte in which files differ, or all of them. -/
def cmp : Tool := fun c =>
  let forms := [flag 'b' "print-bytes", valued 'i' "ignore-initial", flag 'l' "verbose",
    valued 'n' "bytes", flag 's' "quiet", longFlag "silent", flag 'v' ""]
  c.withOptionsUpTo false 2 forms fun g => do
    if g.has "v" then
      print (c.versionLine ++ ['\n'])
      return 0
    let isQuiet := g.has "s" || g.has "silent"
    let invalid (option text : Bytes) : Action Nat :=
      c.misused 2 (filled "invalid % value %" [option, inSingleQuotes text])
    let skips := (g.value? "i").map (·.splitOn ':')
    let counts? := (skips.getD []).map size?
    if counts?.any Option.isNone || 2 < counts?.length then
      return ← invalid "--ignore-initial".toList ((g.value? "i").getD [])
    let counts := counts?.filterMap id
    match (g.value? "n").map fun text => (text, size? text) with
    | some (text, none) => return ← invalid "--bytes".toList text
    | _ => pure ()
    let most := (g.value? "n").bind size?
    if g.has "l" && isQuiet then
      return ← c.misused 2 "options -l and -s are incompatible".toList
    let last := (c.name :: c.arguments).getLast?.getD []
    match g.operands with
    | [] => c.misused 2 ("missing operand after ".toList ++ inSingleQuotes last)
    | path1 :: more =>
      let path2 := (more[0]?).getD ['-']
      match more[3]? with
      | some extra => return ← c.misused 2 ("extra operand ".toList ++ inSingleQuotes extra)
      | none => pure ()
      let given := (more.drop 1).map fun text => (text, size? text)
      match given.find? fun k => k.2.isNone with
      | some (text, _) => return ← invalid "SKIP".toList text
      | none => pure ()
      let skip (i : Nat) : Nat :=
        let own := if counts.length = 1 then counts[0]? else counts[i]?
        (((given[i]?).bind (·.2)).orElse fun _ => own).getD 0
      if path1 = path2 then return 0
      let read1 ← Call.contentOf path1
      match read1 with
      | .error e =>
        if !isQuiet then c.say (path1 ++ ": ".toList ++ describe e)
        return 2
      | .ok text1 =>
        match ← Call.contentOf path2 with
        | .error e =>
          if !isQuiet then c.say (path2 ++ ": ".toList ++ describe e)
          return 2
        | .ok text2 =>
          let cut (text : Bytes) : Bytes := match most with
            | some n => text.take n
            | none => text
          let (text1, text2) := (cut (text1.drop (skip 0)), cut (text2.drop (skip 1)))
          tell c g isQuiet path1 path2 text1 text2
where
  /-- Tells how two texts differ. -/
  tell (c : Call) (g : Given) (isQuiet : Bool) (path1 path2 text1 text2 : Bytes) : Action Nat := do
    let found := differences 0 text1 text2
    let showsBytes := g.has "b"
    let shared := min text1.length text2.length
    if isQuiet then return if text1 = text2 then 0 else 1
    if g.has "l" then
      let width := (Bytes.ofInt shared).length
      for (n, a, b) in found do
        let bytes : Bytes :=
          if showsBytes then
            octalByteText a ++ ' ' :: shownByte a ++
              List.replicate (4 - (shownByte a).length) ' ' ++ ' ' :: octalByteText b ++
              ' ' :: shownByte b
          else octalByteText a ++ ' ' :: octalByteText b
        print (paddedNumber width n ++ ' ' :: bytes ++ ['\n'])
    else
      match found with
      | (n, a, b) :: _ =>
        let line := ((text1.take (n - 1)).filter (· = '\n')).length + 1
        if showsBytes then
          print (filled "% % differ: byte %, line % is % % % %\n"
            [path1, path2, Bytes.ofInt n, Bytes.ofInt line, octalByteText a, shownByte a,
              octalByteText b, shownByte b])
        else
          print (filled "% % differ: char %, line %\n"
            [path1, path2, Bytes.ofInt n, Bytes.ofInt line])
        return 1
      | [] => pure ()
    if text1.length = text2.length then return if found = [] then 0 else 1
    let short := if text1.length < text2.length then path1 else path2
    let read := text1.take shared
    if shared = 0 then c.sayFirst (filled "EOF on % which is empty" [short])
    else if g.has "l" then
      c.sayFirst (filled "EOF on % after byte %" [short, Bytes.ofInt shared])
    else
      let lines := (read.filter (· = '\n')).length
      let isWhole := read.getLast? = some '\n'
      c.sayFirst (filled "EOF on % after byte %, % %"
        [short, Bytes.ofInt shared, (if isWhole then "line" else "in line").toList,
          Bytes.ofInt (if isWhole then lines else lines + 1)])
    return 1

end TokenConformance.Sandbox.Shell.Tool
