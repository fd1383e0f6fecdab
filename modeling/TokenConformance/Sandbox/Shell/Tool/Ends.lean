import TokenConformance.Sandbox.Shell.Tool.Amounts

/-! # Programs that show the start or the end of files

* `Share`: the part of a file that is shown; `Share.ofStart` and `Share.ofEnd` take it.
* `shownWithTitles`: shows files, each below its name.
* `head`, `tail`: show the start or the end of files.
-/

namespace TokenConformance.Sandbox.Shell.Tool

open Sandbox.Text (Bytes)

/-- The part of a file that is shown. -/
structure Share where
  count : Nat
  /-- Whether bytes are counted and not lines. -/
  ofBytes : Bool
  /-- Whether the count says how much is left out and not how much is shown. -/
  isOmitted : Bool
  /-- The character at the end of a line. -/
  mark : Char
deriving DecidableEq, Inhabited

namespace Share

/-- The units of a text. -/
def units (s : Share) (text : Bytes) : List Bytes :=
  if s.ofBytes then text.map ([·]) else endedBy s.mark text

/-- The share at the start of a text. -/
def ofStart (s : Share) (text : Bytes) : Bytes :=
  let us := s.units text
  (us.take (if s.isOmitted then us.length - s.count else s.count)).flatten

/-- The share at the end of a text. -/
def ofEnd (s : Share) (text : Bytes) : Bytes :=
  let us := s.units text
  (us.drop (if s.isOmitted then s.count - 1 else us.length - s.count)).flatten

end Share

/-- How much is read from a pipe at a time. -/
def blockSize : Nat := 8192

/-- Reads what a share at the start needs. A file is left at the end of the share; a pipe is read in
blocks unless bytes are counted. -/
def readStart (s : Share) : Action (Except SystemError Bytes) := do
  let isSeekable := (← get).isSeekable 0
  readWith 0 (fun rest => s.ofStart rest ≠ rest) fun rest =>
    let shown := s.ofStart rest
    let used := if s.isOmitted then rest.length
      else if s.ofBytes || isSeekable then shown.length
      else (shown.length + blockSize - 1) / blockSize * blockSize
    (shown, rest.drop used)

/-- Shows the shares of files, each below its name if that is wanted. -/
def shownWithTitles (c : Call) (hasTitles : Bool) (operands : List Bytes)
    (part : Bytes → Bytes) (fromInput : Action (Except SystemError Bytes)) : Action Nat := do
  let mut status := 0
  let mut isFirst := true
  for path in Call.orInput operands do
    let found ← if path = ['-'] then fromInput else do
        let content ← readPath path
        pure (content.map part)
    let name := if path = ['-'] then "standard input".toList else path
    let title := filled (if isFirst then "==> % <==\n" else "\n==> % <==\n") [name]
    match found with
    | .ok text =>
      if hasTitles then print title
      isFirst := false
      print text
    | .error .isADirectory =>
      if hasTitles then print title
      isFirst := false
      let _ ← c.refuse ("error reading ".toList ++ inQuotes name) .isADirectory
      status := 1
    | .error e =>
      let _ ← c.refuse ("cannot open ".toList ++ inQuotes name ++ " for reading".toList) e
      status := 1
  return status

/-- The options that programs for the start and the end of files share. -/
def endForms : List OptionForm :=
  [valued 'c' "bytes", valued 'n' "lines", flag 'q' "quiet", longFlag "silent", flag 'v' "verbose",
    flag 'z' "zero-terminated"]

/-- Whether files are shown with their names. -/
def hasTitles (g : Given) : Bool :=
  match g.lastOf? ["q", "silent", "v"] with
  | some "v" => true
  | some _ => false
  | none => 1 < g.operands.length

/-- What is wrong with a count. -/
def countFault (noun : String) (text : Bytes) : Bytes :=
  filled "invalid number of %: %" [noun.toList, inSingleQuotes text] ++
    if isTooLarge text then ": Value too large for defined data type".toList else []

/-- The arguments of `head` with an old count such as `-5` written as an option. -/
def modernHead (arguments : List Bytes) : Except Bytes (List Bytes) :=
  match arguments with
  | ('-' :: d :: cs) :: rest =>
    if d.isDigit then
      let digits := (d :: cs).takeWhile Char.isDigit
      let letters := (d :: cs).drop digits.length
      match letters.find? fun c => c ∉ "cbkmlqvz".toList with
      | some c => .error ("invalid trailing option -- ".toList ++ [c])
      | none =>
        let unit := letters.filter fun c => c ∈ ['b', 'k', 'm']
        let isBytes := 'c' ∈ letters || unit ≠ []
        let others := letters.filter fun c => c ∈ ['q', 'v', 'z']
        .ok ((if isBytes then ['-', 'c'] else ['-', 'n']) :: (digits ++ unit.take 1) ::
          others.map (['-', ·]) ++ rest)
    else .ok arguments
  | _ => .ok arguments

/-- Shows the start of files. -/
def head : Tool := fun c => do
  match modernHead c.arguments with
  | .error text => c.misused 1 text
  | .ok arguments =>
    let c : Call := { c with arguments }
    c.withOptions endForms fun g => do
      let kind := (g.lastOf? ["c", "n"]).getD "n"
      let text := (g.value? kind).getD "10".toList
      let isOmitted := text.head? = some '-'
      let count := if isOmitted then text.drop 1 else text
      let mark := if g.has "z" then '\x00' else '\n'
      let amount? := if (count.head?.map fun c => c = '-' || c = '+').getD false then
          (if count.head? = some '+' then size? (count.drop 1) else none)
        else size? count
      match if isTooLarge count then none else amount? with
      | none => c.fail 1 (countFault (if kind = "c" then "bytes" else "lines") count)
      | some n =>
        let s : Share := ⟨n, kind = "c", isOmitted, mark⟩
        shownWithTitles c (hasTitles g) g.operands s.ofStart (readStart s)

/-- The arguments of `tail` with an old count such as `-5` written as an option. -/
def modernTail (arguments : List Bytes) : List Bytes :=
  let isShort := match arguments with
    | [_] => true
    | [_, second] => second = ['-'] || second.head? ≠ some '-'
    | [_, second, _] => second = ['-', '-']
    | _ => false
  match arguments with
  | (sign :: cs) :: rest =>
    let digits := cs.takeWhile Char.isDigit
    let after := cs.drop digits.length
    let isOld := isShort && (sign = '+' || (sign = '-' && digits ≠ [])) &&
      [[], ['b'], ['c'], ['l'], ['f'], ['b', 'f'], ['c', 'f'], ['l', 'f']].contains after
    if isOld then
      let digits := if digits = [] then "10".toList else digits
      let count := if sign = '+' then '+' :: digits else digits
      match after with
      | 'b' :: _ => ['-', 'c'] :: (count ++ ['b']) :: rest
      | 'c' :: _ => ['-', 'c'] :: count :: rest
      | _ => ['-', 'n'] :: count :: rest
    else arguments
  | _ => arguments

/-- The options of `tail`. -/
def tailForms : List OptionForm :=
  endForms ++ [variant 'f' "follow", flag 'F' "", longFlag "retry", longValued "pid",
    valued 's' "sleep-interval", longValued "max-unchanged-stats"]

/-- Shows the end of files. -/
def tail : Tool := fun c =>
  let c : Call := { c with arguments := modernTail c.arguments }
  c.withOptions (tailForms ++ letters "0123456789") fun g => do
    let kind := (g.lastOf? ["c", "n"]).getD "n"
    let text := (g.value? kind).getD "10".toList
    let mark := if g.has "z" then '\x00' else '\n'
    match g.options.find? fun o => (o.1.toList.head?.map Char.isDigit).getD false with
    | some o => c.fail 1 ("option used in invalid context -- ".toList ++ o.1.toList)
    | none =>
      match if isTooLarge text then none else amount? text with
      | none =>
        let shown := if text.head? = some '-' then text.drop 1 else text
        c.fail 1 (countFault (if kind = "c" then "bytes" else "lines") shown)
      | some amount =>
        let s : Share := ⟨amount.count, kind = "c", amount.sign = some '+', mark⟩
        shownWithTitles c (hasTitles g) g.operands s.ofEnd do
          return (← readAll 0).map s.ofEnd

end TokenConformance.Sandbox.Shell.Tool
