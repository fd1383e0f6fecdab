import TokenConformance.Sandbox.Shell.Tool.Counting

/-! # Programs that rearrange lines

* `tac`, `rev`: lines, or the characters of lines, in reverse.
* `Sameness`, `uniq`: leaves out lines that are the same as the one before them.
* `delimiters?`, `paste`: puts lines side by side.
-/

namespace TokenConformance.Sandbox.Shell.Tool

open Sandbox.Text (Bytes Regex Subject)

/-! ## Reversal -/

/-- Whether a text starts with another one. -/
def startsWith (text start : Bytes) : Bool := start.isPrefixOf text

/-- The records of a text with their separators after them. The number bounds how many there are. -/
def recordsBy (separator : Bytes) : Nat → Bytes → Bytes → List Bytes
  | 0, now, rest => [now.reverse ++ rest]
  | _, [], [] => []
  | _, now, [] => [now.reverse]
  | n + 1, now, c :: rest =>
    if startsWith (c :: rest) separator then
      (now.reverse ++ separator) :: recordsBy separator n [] ((c :: rest).drop separator.length)
    else recordsBy separator n (c :: now) rest

/-- Where an expression is found, looking from the end of a text to its start. The number bounds how
many places there are. -/
def matchesFromEnd (r : Regex) (s : Subject) : Nat → Nat → List (Nat × Nat) → List (Nat × Nat)
  | 0, _, found => found
  | n + 1, i, found =>
    let limit := (found.head?.map (·.1)).getD s.text.size
    match (r.ends s i).reverse.find? fun j => j ≤ limit && i < j with
    | some j => matchesFromEnd r s n (i - 1) ((i, j) :: found)
    | none => if i = 0 then found else matchesFromEnd r s n (i - 1) found

/-- The records of a text between separators that an expression matches. -/
def recordsByRegex (r : Regex) (text : Bytes) : List Bytes :=
  let s : Subject := ⟨text.toArray, true⟩
  let cuts := (matchesFromEnd r s (text.length + 1) (text.length - 1) []).map (·.2)
  let (found, start) := cuts.foldl
    (fun (x : List Bytes × Nat) cut => (s.slice (x.2, cut) :: x.1, cut)) ([], 0)
  (if start < text.length then s.slice (start, text.length) :: found else found).reverse

/-- The records of a text with their separators before them. -/
def recordsBefore (separator text : Bytes) : List Bytes :=
  match recordsBy separator (text.length + 1) [] text with
  | [] => []
  | ended =>
    let bare := ended.map fun r =>
      if separator.isSuffixOf r then (r.take (r.length - separator.length), true) else (r, false)
    let (found, _) := bare.foldl
      (fun (x : List Bytes × Bool) (r, isEnded) =>
        ((if x.2 then separator ++ r else r) :: x.1, isEnded)) ([], false)
    let last : List Bytes := if (bare.getLast?.map (·.2)).getD false then [separator] else []
    found.reverse.filter (· ≠ []) ++ last

/-- Writes files with their last line first. -/
def tac : Tool := fun c =>
  c.withOptions [flag 'b' "before", flag 'r' "regex", valued 's' "separator"] fun g => do
    let separator := (g.value? "s").getD ['\n']
    let separator := if separator = [] then ['\x00'] else separator
    let r? := if g.has "r" then some (Regex.read plainForm separator) else none
    match r? with
    | some (.error e) => c.fail 1 e.toList
    | _ =>
      let records (text : Bytes) : List Bytes := match r? with
        | some (.ok (r, _)) => recordsByRegex r text
        | _ =>
          if g.has "b" then recordsBefore separator text
          else recordsBy separator (text.length + 1) [] text
      let complaint := Call.openOrRead
        (fun p e => "failed to open ".toList ++ inQuotes p ++ " for reading: ".toList ++ describe e)
        (fun p _ => named p ++ ": read error: Invalid argument".toList)
      let (found, isDone) ← c.contents complaint g.operands
      print (found.flatMap fun f => (records f.2).reverse.flatten)
      return Call.statusOf isDone

/-- Writes the characters of every line in reverse. -/
def rev : Tool := fun c =>
  c.withOptions [] fun g =>
    let complaint := Call.openOrRead
      (fun p e => "cannot open ".toList ++ p ++ ": ".toList ++ describe e)
      (fun p e => p ++ ": ".toList ++ describe e)
    c.filterEach complaint g.operands fun text =>
      (wholeLines text).flatMap fun line =>
        let bare := withoutMark '\n' line
        bare.reverse ++ line.drop bare.length

/-! ## Repetitions -/

/-- What makes two lines the same. -/
structure Sameness where
  fields : Nat
  characters : Nat
  most : Option Nat
  ignoresCase : Bool
deriving DecidableEq, Inhabited

/-- Whether a character is a blank. -/
def isBlank (c : Char) : Bool := c = ' ' || c = '\t'

/-- A text without some fields at its start, each with the blanks before it. -/
def skipFields : Nat → Bytes → Bytes
  | 0, text => text
  | n + 1, text => skipFields n ((text.dropWhile isBlank).dropWhile fun c => !isBlank c)

/-- The part of a line that counts. -/
def Sameness.key (s : Sameness) (line : Bytes) : Bytes :=
  let text := (skipFields s.fields line).drop s.characters
  let text := match s.most with
    | some n => text.take n
    | none => text
  if s.ignoresCase then text.map Char.toUpper else text

/-- Lines in groups of those that are the same. -/
def Sameness.groups (s : Sameness) : List Bytes → List (List Bytes)
  | [] => []
  | line :: rest =>
    match s.groups rest with
    | (next :: group) :: others =>
      if s.key line = s.key next then (line :: next :: group) :: others
      else [line] :: (next :: group) :: others
    | others => [line] :: others

/-- How groups of lines are told apart. -/
structure Spacing where
  before : Bool
  between : Bool
  after : Bool
deriving DecidableEq, Inhabited

/-- The spacing that a name stands for. -/
def spacing (name : String) : Spacing :=
  match name with
  | "prepend" => ⟨true, true, false⟩
  | "append" => ⟨false, true, true⟩
  | "separate" => ⟨false, true, false⟩
  | "both" => ⟨true, true, true⟩
  | _ => ⟨false, false, false⟩

/-- Groups of lines with empty lines between them. -/
def spaced (s : Spacing) (groups : List (List Bytes)) : List Bytes :=
  if groups = [] then []
  else
    (if s.before then [[]] else []) ++
      (if s.between then [[]] else []).intercalate groups ++
      (if s.after then [[]] else [])

/-- The lines that `uniq` shows of groups of lines. -/
def uniqLines (g : Given) (groups : List (List Bytes)) : List Bytes :=
  let repeated := groups.filter fun group => 1 < group.length
  if g.has "group" then spaced (spacing (String.ofList ((g.value? "group").getD []))) groups
  else if g.has "D" || g.has "all-repeated" then
    spaced (spacing (String.ofList ((g.value? "all-repeated").getD []))) (if g.has "u" then [] else repeated)
  else
    let shown := groups.filter fun group =>
      if group.length = 1 then !g.has "d" else !g.has "u"
    shown.map fun group =>
      (if g.has "c" then paddedNumber 7 group.length ++ [' '] else []) ++ group.headD []

/-- The options of `uniq`. -/
def uniqForms : List OptionForm :=
  [flag 'c' "count", flag 'd' "repeated", flag 'D' "", longVariant "all-repeated",
    flag 'u' "unique", flag 'i' "ignore-case", valued 'f' "skip-fields", valued 's' "skip-chars",
    valued 'w' "check-chars", flag 'z' "zero-terminated", longVariant "group"]

/-- The arguments of `uniq` with old counts such as `-1` and `+1` written as options. -/
def modernUniq (arguments : List Bytes) : List Bytes :=
  arguments.flatMap fun
    | '-' :: d :: ds => if (d :: ds).all Char.isDigit then [['-', 'f'], d :: ds] else ['-' :: d :: ds]
    | '+' :: d :: ds => if (d :: ds).all Char.isDigit then [['-', 's'], d :: ds] else ['+' :: d :: ds]
    | a => [a]

/-- Leaves out lines that are the same as the one before them. -/
def uniq : Tool := fun c =>
  let c : Call := { c with arguments := modernUniq c.arguments }
  c.withOptions uniqForms fun g => c.withAtMost 2 g.operands do
    let named? (key : String) (standard : String) (known : List String) (f : String → Action Nat) :
        Action Nat :=
      match (g.value? key).filter (· ≠ []) with
      | some text => c.withChoice ("--" ++ key) known text f
      | none => f standard
    named? "all-repeated" "none" ["none", "prepend", "separate"] fun repeated =>
    named? "group" "separate" ["prepend", "append", "separate", "both"] fun group => do
      let number (key noun : String) : Action (Except Nat (Option Nat)) := do
        match g.value? key with
        | none => return .ok none
        | some text =>
          match digitsValue? text with
          | some n => return .ok (some n)
          | none => return .error (← c.fail 1 (text ++ ": invalid number of ".toList ++ noun.toList))
      match ← number "f" "fields to skip", ← number "s" "bytes to skip",
          ← number "w" "bytes to compare" with
      | .ok fields, .ok characters, .ok most =>
        let isAll := g.has "D" || g.has "all-repeated"
        if g.has "group" && (isAll || g.has "c" || g.has "d" || g.has "u") then
          return ← c.misused 1 "--group is mutually exclusive with -c/-d/-D/-u".toList
        if isAll && g.has "c" then
          return ← c.misused 1
            "printing all duplicated lines and repeat counts is meaningless".toList
        let g : Given := { g with options := g.options.map fun o =>
          if o.1 = "group" then (o.1, group.toList)
          else if o.1 = "all-repeated" then (o.1, repeated.toList) else o }
        let mark := if g.has "z" then '\x00' else '\n'
        let s : Sameness := ⟨fields.getD 0, characters.getD 0, most, g.has "i"⟩
        let path := g.operands.headD ['-']
        match ← Call.contentOf path with
        | .error e =>
          c.fail 1 (Call.openOrRead Call.plainComplaint
            (fun p e => "error reading ".toList ++ inQuotes p ++ ": ".toList ++ describe e) path e)
        | .ok text =>
          let ls := (endedBy mark text).map (withoutMark mark)
          let result := (uniqLines g (s.groups ls)).flatMap (· ++ [mark])
          match (g.operands[1]?).filter (· ≠ ['-']) with
          | none =>
            print result
            return 0
          | some target =>
            match ← Call.putPath .writing target result with
            | .ok () => return 0
            | .error e => c.fail 1 (Call.plainComplaint target e)
      | _, _, _ => return 1

/-! ## Columns of files -/

/-- The texts that a list of delimiters stands for, unless it ends in a backslash. -/
def delimiters? : Bytes → Option (List Bytes)
  | [] => some []
  | ['\\'] => none
  | '\\' :: c :: rest =>
    let text : Bytes := match c with
      | '0' => []
      | 'b' => ['\x08']
      | 'f' => ['\x0c']
      | 'n' => ['\n']
      | 'r' => ['\r']
      | 't' => ['\t']
      | 'v' => ['\x0b']
      | c => [c]
    (delimiters? rest).map (text :: ·)
  | c :: rest => (delimiters? rest).map ([c] :: ·)

/-- Texts with delimiters between them, which are used one after another. -/
def delimited (ds : List Bytes) (texts : List Bytes) : Bytes :=
  (texts.zipIdx.map fun (t, i) =>
    if i = 0 then t else ds.getD ((i - 1) % ds.length) [] ++ t).flatten

/-- The lines of files side by side. The number bounds how many lines there are. -/
def sideBySide (ds : List Bytes) : Nat → List (List Bytes) → List Bytes
  | 0, _ => []
  | n + 1, files =>
    if files.all List.isEmpty then []
    else delimited ds (files.map (·.headD [])) :: sideBySide ds n (files.map List.tail)

/-- The lines of an input that several files share, dealt out among them. -/
def dealt (count : Nat) (ls : List Bytes) (i : Nat) : List Bytes :=
  (ls.zipIdx.filter fun l => l.2 % count = i).map (·.1)

/-- Puts the lines of files side by side. -/
def paste : Tool := fun c =>
  c.withOptions [valued 'd' "delimiters", flag 's' "serial", flag 'z' "zero-terminated"] fun g => do
    let text := (g.value? "d").getD ['\t']
    match delimiters? text with
    | none => c.fail 1 ("delimiter list ends with an unescaped backslash: ".toList ++ text)
    | some ds =>
      let ds := if ds = [] then [[]] else ds
      let mark := if g.has "z" then '\x00' else '\n'
      let linesOf (text : Bytes) : List Bytes := (endedBy mark text).map (withoutMark mark)
      let operands := Call.orInput g.operands
      if g.has "s" then
        return Call.statusOf (← c.eachContent Call.plainComplaint operands fun _ text =>
          print (delimited ds (linesOf text) ++ [mark]))
      let shared := operands.count ['-']
      let mut input : List Bytes := []
      let mut files : List (List Bytes) := []
      let mut used := 0
      let mut status := 0
      for path in operands do
        if path = ['-'] then
          if used = 0 then
            match ← readAll 0 with
            | .ok text => input := linesOf text
            | .error e => return ← c.fail 1 (Call.plainComplaint path e)
          files := files ++ [dealt shared input used]
          used := used + 1
        else
          match ← readPath path with
          | .ok text => files := files ++ [linesOf text]
          | .error .isADirectory =>
            status ← c.fail 1 (Call.plainComplaint path .isADirectory)
            files := files ++ [[]]
          | .error e => return ← c.fail 1 (Call.plainComplaint path e)
      let most := (files.map List.length).foldl max 0
      print ((sideBySide ds (most + 1) files).flatMap (· ++ [mark]))
      return status

end TokenConformance.Sandbox.Shell.Tool
