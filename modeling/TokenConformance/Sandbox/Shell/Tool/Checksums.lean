import TokenConformance.Sandbox.Digest.Blake2
import TokenConformance.Sandbox.Digest.SmallWords
import TokenConformance.Digest.Sha256
import TokenConformance.Sandbox.Digest.Sha512
import TokenConformance.Sandbox.Digest.Sums
import TokenConformance.Sandbox.Shell.Tool.Encoding
import TokenConformance.Text.Hex

/-! # Programs that compute and check digests

* `DigestKind`: a digest with the name that it has in a line.
* `digestLine`: the line for a file; `Listed` is what such a line tells, and `listed?` reads it.
* `checkList`: checks the files of a list.
* `md5sum`, `sha1sum` and the others: one kind each; `cksum`: all kinds; `sum`: the oldest ones.
-/

namespace TokenConformance.Sandbox.Shell.Tool

open Sandbox.Text (Bytes)

/-! ## Kinds -/

/-- A digest. -/
structure DigestKind where
  /-- What the digest is called in options. -/
  name : String
  /-- What the digest is called in lines. -/
  tag : String
  /-- How many bytes the digest has. -/
  size : Nat
  /-- Whether a digest may be asked for that has fewer bytes. -/
  isShortenable : Bool
  /-- The digest of a message with some number of bytes. -/
  digest : Nat → List UInt8 → List UInt8

namespace DigestKind

/-- The kinds whose lines can be checked. -/
def all : List DigestKind :=
  [⟨"md5", "MD5", 16, false, fun _ => Md5.digest⟩, ⟨"sha1", "SHA1", 20, false, fun _ => Sha1.digest⟩,
    ⟨"sha224", "SHA224", 28, false, fun _ => Sha224.digest⟩,
    ⟨"sha256", "SHA256", 32, false, fun _ => Sha256.digest⟩,
    ⟨"sha384", "SHA384", 48, false, fun _ => Sha512.shortDigest⟩,
    ⟨"sha512", "SHA512", 64, false, fun _ => Sha512.digest⟩,
    ⟨"blake2b", "BLAKE2b", 64, true, Blake2.digest⟩, ⟨"sm3", "SM3", 32, false, fun _ => Sm3.digest⟩]

/-- The kind with a name. -/
def named? (name : String) : Option DigestKind := all.find? fun k => k.name = name

end DigestKind

/-- A name that stands in a line: without ends of lines and with every backslash doubled. -/
def lineName (name : Bytes) : Bytes :=
  name.flatMap fun c =>
    match c with
    | '\\' => ['\\', '\\']
    | '\n' => ['\\', 'n']
    | '\r' => ['\\', 'r']
    | c => [c]

/-- The name that has been written with backslashes. -/
def unescapedName? : Bytes → Option Bytes
  | [] => some []
  | '\\' :: '\\' :: rest => (unescapedName? rest).map ('\\' :: ·)
  | '\\' :: 'n' :: rest => (unescapedName? rest).map ('\n' :: ·)
  | '\\' :: 'r' :: rest => (unescapedName? rest).map ('\r' :: ·)
  | '\\' :: _ => none
  | c :: rest => (unescapedName? rest).map (c :: ·)

/-- Whether a name cannot stand in a line as it is. -/
def needsEscape (name : Bytes) : Bool := name.any fun c => c = '\\' || c = '\n' || c = '\r'

/-- A name in a line, with a backslash before it if it is not written as it is. -/
def markedName (name : Bytes) : Bytes :=
  if needsEscape name then '\\' :: lineName name else name

/-- How lines are written. -/
structure DigestStyle where
  isTagged : Bool
  isBinary : Bool
  isBase64 : Bool
  mark : Char

/-- The line for a file with a digest. -/
def digestLine (s : DigestStyle) (k : DigestKind) (size : Nat) (digest : List UInt8)
    (name : Bytes) : Bytes :=
  let needsMark := s.mark = '\n' && needsEscape name
  let shown := if needsMark then lineName name else name
  let letters := if s.isBase64 then Alphabet.base64.encode (Bytes.ofList digest)
    else (Text.Hex.encode digest).toList
  (if needsMark then ['\\'] else []) ++
    (if s.isTagged then
      let length := if size < k.size then '-' :: Bytes.ofInt (size * 8 : Nat) else []
      filled "%% (%) = %" [k.tag.toList, length, shown, letters]
    else letters ++ [' ', if s.isBinary then '*' else ' '] ++ shown) ++ [s.mark]

/-! ## Lists -/

/-- What a line of a list tells. -/
structure Listed where
  kind : DigestKind
  size : Nat
  letters : Bytes
  name : Bytes

/-- What a list is read with. -/
structure ListReader where
  kinds : List DigestKind
  /-- The kind of lines without a name of a kind. -/
  untagged? : Option DigestKind
  /-- Whether the letters of digests may stand for six bits each. -/
  allowsBase64 : Bool

/-- Whether a character is a blank in a line. -/
def isGap (c : Char) : Bool := c = ' ' || c = '\t'

/-- Whether letters can be those of a digest of some size. -/
def areDigestLetters (r : ListReader) (size : Nat) (letters : Bytes) : Bool :=
  (letters.length = 2 * size && letters.all fun c => (Text.Hex.value? c).isSome) ||
    (r.allowsBase64 && letters.length = (size + 2) / 3 * 4 &&
      (Alphabet.base64.decode false letters).2)

/-- Reads what follows the name of a kind. -/
def listedTagged? (r : ListReader) (k : DigestKind) (isMarked : Bool) (text : Bytes) :
    Option Listed := do
  let (size, text) ← match k.isShortenable, text with
    | true, '-' :: rest =>
      let digits := rest.takeWhile Char.isDigit
      let bits := digitsValue digits
      if digits ≠ [] && 0 < bits && bits ≤ k.size * 8 && bits % 8 = 0 then
        some (bits / 8, rest.drop digits.length)
      else none
    | _, _ => some (k.size, text)
  let text := if text.head? = some ' ' then text.drop 1 else text
  match text with
  | '(' :: rest =>
    let after := (rest.reverse.takeWhile (· ≠ ')')).reverse
    if after.length = rest.length then none
    else
      let name := rest.take (rest.length - after.length - 1)
      let name ← if isMarked then unescapedName? name else some name
      match after.dropWhile isGap with
      | '=' :: letters =>
        let letters := letters.dropWhile isGap
        if areDigestLetters r size letters then some ⟨k, size, letters, name⟩ else none
      | _ => none
  | _ => none

/-- Reads a line that has no name of a kind. The result says also whether the name follows a single
blank; it may not if that is said. -/
def listedPlain? (r : ListReader) (k : DigestKind) (isMarked : Bool) (follows : Option Bool)
    (text : Bytes) : Option (Listed × Bool) := do
  let size :=
    if k.isShortenable && !r.allowsBase64 then
      (text.takeWhile fun c => (Text.Hex.value? c).isSome).length / 2
    else k.size
  let letters := text.takeWhile fun c => !isGap c
  if size = 0 || k.size < size || !areDigestLetters r size letters then none
  match text.drop letters.length with
  | _ :: rest =>
    let isSingle := rest.length = 1 || (rest.head? ≠ some ' ' && rest.head? ≠ some '*')
    let isSingle ← match isSingle, follows with
      | true, some false => none
      | _, some true => some true
      | b, _ => some b
    let name := if isSingle then rest else rest.drop 1
    let name ← if isMarked then unescapedName? name else some name
    return (⟨k, size, letters, name⟩, isSingle)
  | [] => none

/-- Reads a line of a list. The second part of the result says whether names follow a single blank in
this list, as far as that is known. -/
def listed? (r : ListReader) (follows : Option Bool) (line : Bytes) :
    Option Listed × Option Bool :=
  let text := line.dropWhile isGap
  let isMarked := text.head? = some '\\'
  let text := if isMarked then text.drop 1 else text
  let tagged? := DigestKind.all.find? fun k => k.tag.toList.isPrefixOf text &&
    (r.allowsBase64 || r.kinds.any fun own => own.name = k.name)
  match tagged?, r.untagged? with
  | some k, _ =>
    if r.kinds.any fun own => own.name = k.name then
      (listedTagged? r k isMarked (text.drop k.tag.length), follows)
    else (none, follows)
  | none, some k =>
    match listedPlain? r k isMarked follows text with
    | some (l, isSingle) => (some l, some isSingle)
    | none => (none, follows)
  | none, none => (none, follows)

/-- A warning about some number of things. -/
def warningOf (count : Nat) (one many : String) : Bytes :=
  filled "WARNING: % %" [Bytes.ofInt count, (if count = 1 then one else many).toList]

/-- Checks the files of a list. The result says whether all is well. -/
def checkList (c : Call) (g : Given) (r : ListReader) (path : Bytes) : Action Bool := do
  let isInput := path = ['-']
  let listName := if isInput then inSingleQuotes "standard input".toList else named path
  let loudness := (g.lastOf? ["status", "quiet", "w"]).getD ""
  match ← Call.contentOf path with
  | .error .isADirectory =>
    c.say (listName ++ ": read error".toList)
    return false
  | .error e => c.refuse listName e
  | .ok content =>
    let mut follows := none
    let mut malformed := 0
    let mut unread := 0
    let mut different := 0
    let mut hasLines := false
    let mut hasMatch := false
    for (line, i) in (Bytes.lines content).zipIdx do
      let line := withoutMark '\r' line
      if line ≠ [] && line.head? ≠ some '#' then
        let (found, now) := listed? r follows line
        follows := now
        match found.filter fun l => !(isInput && l.name = ['-']) with
        | none =>
          malformed := malformed + 1
          if loudness = "w" then
            let kind := (r.untagged?.orElse fun _ => r.kinds.head?).map (·.tag)
            c.say (filled "%: %: improperly formatted % checksum line"
              [listName, Bytes.ofInt (i + 1 : Nat), (kind.getD "CRC").toList])
        | some l =>
          hasLines := true
          let tell (text : String) : Action Unit := do
            if loudness ≠ "status" then print (markedName l.name ++ ": ".toList ++ text.toList ++ ['\n'])
          match ← Call.contentOf l.name with
          | .error e =>
            if !(e = .notFound && g.has "ignore-missing") then
              let _ ← c.refuse (named l.name) e
              unread := unread + 1
              tell "FAILED open or read"
          | .ok content =>
            let digest := l.kind.digest l.size (Bytes.toList content)
            let isSame :=
              if l.letters.length = 2 * l.size then
                (Text.Hex.encode digest).toList = l.letters.map Char.toLower
              else Alphabet.base64.encode (Bytes.ofList digest) = l.letters
            if isSame then
              hasMatch := true
              if loudness ≠ "quiet" then tell "OK"
            else
              different := different + 1
              tell "FAILED"
    if !hasLines then c.say (listName ++ ": no properly formatted checksum lines found".toList)
    else if loudness ≠ "status" then
      if malformed ≠ 0 then
        c.say (warningOf malformed "line is improperly formatted" "lines are improperly formatted")
      if unread ≠ 0 then
        c.say (warningOf unread "listed file could not be read" "listed files could not be read")
      if different ≠ 0 then
        c.say (warningOf different "computed checksum did NOT match"
          "computed checksums did NOT match")
      if g.has "ignore-missing" && !hasMatch then
        c.say (listName ++ ": no file was verified".toList)
    return hasMatch && different = 0 && unread = 0 && !(g.has "strict" && malformed ≠ 0)

/-! ## Programs -/

/-- The options of programs that compute digests. -/
def digestForms : List OptionForm :=
  [flag 'b' "binary", flag 'c' "check", longFlag "ignore-missing", longFlag "quiet",
    longFlag "status", longFlag "strict", longFlag "tag", flag 't' "text", flag 'w' "warn",
    flag 'z' "zero"]

/-- What is wrong with the options for checking. -/
def checkingFault? (g : Given) : Option Bytes :=
  let only := [("ignore-missing", "ignore-missing"), ("status", "status"), ("w", "warn"),
    ("quiet", "quiet"), ("strict", "strict")]
  let given := only.find? fun o =>
    g.has o.1 && (o.1 = "ignore-missing" || o.1 = "strict" ||
      g.lastOf? ["status", "w", "quiet"] = some o.1)
  match given with
  | some o =>
    if g.has "c" then none
    else some (filled "the --% option is meaningful only when verifying checksums" [o.2.toList])
  | none => none

/-- Goes on with the number of bytes that a digest is asked to have. -/
def withDigestSize (c : Call) (g : Given) (k : DigestKind) (f : Nat → Action Nat) : Action Nat := do
  match g.value? "l" with
  | none => f k.size
  | some text =>
    let invalid := "invalid length: ".toList ++ inSingleQuotes text
    match digitsValue? text with
    | none => c.fail 1 invalid
    | some 0 => f k.size
    | some bits =>
      if bits % 8 ≠ 0 then
        c.say invalid
        c.fail 1 "length is not a multiple of 8".toList
      else if !k.isShortenable then
        c.fail 1 "--length is only supported with --algorithm=blake2b".toList
      else if k.size * 8 < bits then
        c.say invalid
        c.fail 1 "maximum digest length for 'BLAKE2b' is 512 bits".toList
      else f (bits / 8)

/-- Computes digests of one kind, or checks them. -/
def digestTool (name : String) : Tool := fun c =>
  match DigestKind.named? name with
  | none => return 1
  | some k =>
    let extra := if k.isShortenable then [valued 'l' "length"] else []
    c.withOptions (digestForms ++ extra) fun g => withDigestSize c g k fun size => do
      let lastBinary := g.lastOf? ["b", "t", "tag"]
      if g.has "tag" && lastBinary = some "t" then
        return ← c.misused 1 "--tag does not support --text mode".toList
      if g.has "c" then
        if g.has "z" then
          return ← c.misused 1 "the --zero option is not supported when verifying checksums".toList
        if g.has "tag" then
          return ← c.misused 1 "the --tag option is meaningless when verifying checksums".toList
        if lastBinary.isSome then
          return ← c.misused 1
            "the --binary and --text options are meaningless when verifying checksums".toList
      match checkingFault? g with
      | some text => c.misused 1 text
      | none =>
        if g.has "c" then Call.forEach (Call.orInput g.operands) (checkList c g ⟨[k], some k, false⟩)
        else
          let style : DigestStyle :=
            ⟨g.has "tag", lastBinary = some "b", false, if g.has "z" then '\x00' else '\n'⟩
          return Call.statusOf (← c.eachContent Call.plainComplaint g.operands fun path content =>
            print (digestLine style k size (k.digest size (Bytes.toList content)) path))

/-- The sums that are older than digests. -/
inductive SumKind where
  | turning
  | plain
  | remainder
deriving DecidableEq, Inhabited

namespace SumKind

/-- What the sum is called in options. -/
def name : SumKind → String
  | turning => "bsd"
  | plain => "sysv"
  | remainder => "crc"

/-- The sum of a text. -/
def value (k : SumKind) (text : Bytes) : Nat :=
  match k with
  | turning => Sums.turningSum (Bytes.toList text)
  | plain => Sums.plainSum (Bytes.toList text)
  | remainder => (Sums.crc (Bytes.toList text)).toNat

/-- The sum of a text and its size. -/
def text (k : SumKind) (text : Bytes) : Bytes :=
  let sum := Bytes.ofInt (k.value text)
  let blocks (size : Nat) : Nat := (text.length + size - 1) / size
  match k with
  | turning => List.replicate (5 - sum.length) '0' ++ sum ++ ' ' :: paddedNumber 5 (blocks 1024)
  | plain => filled "% %" [sum, Bytes.ofInt (blocks 512)]
  | remainder => filled "% %" [sum, Bytes.ofInt text.length]

/-- The line for a file; input that has not been named has no name. -/
def line (k : SumKind) (isNamed : Bool) (mark : Char) (name content : Bytes) : Bytes :=
  k.text content ++ (if isNamed then ' ' :: name else []) ++ [mark]

end SumKind

/-- Computes sums of files. -/
def sum : Tool := fun c => c.withOptions [flag 'r' "", flag 's' "sysv"] fun g => do
  let k : SumKind := if g.lastOf? ["r", "s"] = some "s" then .plain else .turning
  return Call.statusOf (← c.eachContent Call.plainComplaint g.operands fun path content =>
    print (k.line (g.operands ≠ []) '\n' path content))

/-- Computes digests of a kind that is named, or sums, or checks them. -/
def cksum : Tool := fun c =>
  c.withOptions (digestForms ++ [valued 'a' "algorithm", valued 'l' "length", longFlag "base64",
      longFlag "raw", longFlag "untagged", longFlag "debug"]) fun g => do
    let sums : List SumKind := [.turning, .plain, .remainder]
    let known := sums.map SumKind.name ++ DigestKind.all.map (·.name)
    match (g.values "a").find? fun w => !known.any fun k => k.toList = w with
    | some w => c.refuseChoice "--algorithm" known "invalid" w
    | none =>
      let name := ((g.value? "a").map String.ofList).getD "crc"
      let older : DigestKind := ⟨name, "CRC", 0, false, fun _ _ => []⟩
      withDigestSize c g ((DigestKind.named? name).getD older) fun size => do
        let sum? := sums.find? fun k => k.name = name
        if g.has "c" && g.has "a" && sum?.isSome then
          return ← c.fail 1 "--check is not supported with --algorithm=\x7bbsd,sysv,crc\x7d".toList
        if g.has "base64" && g.has "raw" then
          return ← c.misused 1 "--base64 and --raw are mutually exclusive".toList
        let isTagged := g.lastOf? ["tag", "untagged"] ≠ some "untagged"
        let lastBinary := g.lastOf? ["b", "t", "tag"]
        if isTagged && lastBinary = some "t" then
          return ← c.misused 1 "--text mode is only supported with --untagged".toList
        if g.has "c" && g.has "z" then
          return ← c.misused 1 "the --zero option is not supported when verifying checksums".toList
        if g.has "c" && lastBinary.isSome then
          return ← c.misused 1
            "the --binary and --text options are meaningless when verifying checksums".toList
        match checkingFault? g with
        | some text => c.misused 1 text
        | none =>
          let kind? := DigestKind.named? name
          let own := if g.has "a" then kind?.toList else DigestKind.all
          if g.has "c" then
            return ← Call.forEach (Call.orInput g.operands) (checkList c g ⟨own, kind?, true⟩)
          if 1 < g.operands.length && g.has "raw" then
            return ← c.fail 1 "the --raw option is not supported with multiple files".toList
          let mark := if g.has "z" then '\x00' else '\n'
          let style : DigestStyle := ⟨isTagged, lastBinary = some "b", g.has "base64", mark⟩
          return Call.statusOf (← c.eachContent Call.plainComplaint g.operands fun path content =>
            print <| match sum?, kind? with
              | some k, _ =>
                if g.has "raw" then
                  Bytes.ofList (Digest.ByteOrder.highestFirst.bytesOf
                    (if k = .remainder then 4 else 2) (k.value content))
                else k.line (g.operands ≠ []) mark path content
              | none, some k =>
                let digest := k.digest size (Bytes.toList content)
                if g.has "raw" then Bytes.ofList digest else digestLine style k size digest path
              | none, none => [])

end TokenConformance.Sandbox.Shell.Tool
