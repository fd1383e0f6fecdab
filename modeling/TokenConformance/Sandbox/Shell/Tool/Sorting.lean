import TokenConformance.Sandbox.Shell.Tool.Amounts
import TokenConformance.Sandbox.Shell.Tool.Lines
import TokenConformance.Sandbox.Text.Binary
import TokenConformance.Sandbox.Text.Version

/-! # The program that sorts lines

* `Manner`: how texts are compared; `SortKey`: which part of a line is compared, and how.
* `SortKey.part`: the part of a line.
* `Manner.compare`: compares parts.
* `SortKey.ofText`: reads a key.
* `Sorting.compare`: compares lines.
* `sort`: sorts the lines of files, merges them or checks their order.
-/

namespace TokenConformance.Sandbox.Shell.Tool

open Sandbox.Text (Bytes Binary Numeral)

/-- How texts are compared. The letters are those of the options: `b`, `d`, `f`, `g`, `h`, `i`, `M`,
`n`, `R`, `r` and `V`. -/
abbrev Manner := Bytes

/-- Which part of a line is compared, and how. -/
structure SortKey where
  /-- How many fields are before the part. -/
  startField : Nat
  startCharacter : Nat
  /-- The field in which the part ends, counted from zero, if it does not go on to the end. -/
  endField : Option Nat
  /-- How many characters of that field belong to it; zero means all. -/
  endCharacter : Nat
  manner : Manner
  skipsStartBlanks : Bool
  skipsEndBlanks : Bool
deriving DecidableEq, Inhabited

namespace SortKey

/-- Whether a character separates fields where nothing else does. -/
def isGap (c : Char) : Bool := c = ' ' || c = '\t' || c = '\n'

/-- A text without a field at its start, up to the mark that ends it or with the blanks before it. -/
def afterField (mark : Option Char) (text : Bytes) : Bytes :=
  match mark with
  | some m => text.dropWhile (· ≠ m)
  | none => (text.dropWhile isGap).dropWhile fun c => !isGap c

/-- A text without some fields at its start and the marks that end them. -/
def withoutFields (mark : Option Char) : Nat → Bytes → Bytes
  | 0, text => text
  | n + 1, text =>
    let rest := afterField mark text
    withoutFields mark n (if mark.isSome then rest.drop 1 else rest)

/-- What comes after the part of a line. -/
def afterPart (k : SortKey) (mark : Option Char) (line : Bytes) : Bytes :=
  match k.endField with
  | none => []
  | some field =>
    if k.endCharacter = 0 then afterField mark (withoutFields mark field line)
    else
      let text := withoutFields mark field line
      let text := if k.skipsEndBlanks then text.dropWhile isGap else text
      text.drop k.endCharacter

/-- The part of a line. -/
def part (k : SortKey) (mark : Option Char) (line : Bytes) : Bytes :=
  let text := withoutFields mark k.startField line
  let text := if k.skipsStartBlanks then text.dropWhile isGap else text
  let text := text.drop k.startCharacter
  text.take (text.length - (k.afterPart mark line).length)

end SortKey

/-! ## Comparisons -/

/-- A decimal number: a whole number and how many of its digits are after the point. -/
structure Decimal where
  value : Int
  scale : Nat
deriving DecidableEq, Inhabited

/-- Compares decimal numbers. -/
def Decimal.compare (a b : Decimal) : Ordering :=
  let scale := max a.scale b.scale
  Ord.compare (a.value * Nat.pow 10 (scale - a.scale)) (b.value * Nat.pow 10 (scale - b.scale))

/-- The decimal number at the start of a text, and what follows it. -/
def leadingDecimal (text : Bytes) : Decimal × Bytes :=
  let text := text.dropWhile SortKey.isGap
  let isNegative := text.head? = some '-'
  let text := if isNegative then text.drop 1 else text
  let whole := text.takeWhile Char.isDigit
  let rest := text.drop whole.length
  let fraction : Bytes := match rest with
    | '.' :: rest => rest.takeWhile Char.isDigit
    | _ => []
  let rest := if rest.head? = some '.' then rest.drop (fraction.length + 1) else rest
  let n : Int := digitsValue (whole ++ fraction)
  (⟨if isNegative then -n else n, fraction.length⟩, rest)

/-- The rank of the unit after a number, which is on the other side for numbers below zero. -/
def unitRank (d : Decimal) (rest : Bytes) : Int :=
  let letters : Bytes := 'k' :: powerLetters
  let rank : Int := match rest.head? with
    | some 'k' => 1
    | some c => match letters.idxOf? c with
      | some i => i
      | none => 0
    | none => 0
  if d.value = 0 then 0 else if d.value < 0 then -rank else rank

/-- The number of a month, and zero for anything else. -/
def monthNumber (text : Bytes) : Nat :=
  let name := ((text.dropWhile SortKey.isGap).take 3).map Char.toUpper
  let months := ["JAN", "FEB", "MAR", "APR", "MAY", "JUN", "JUL", "AUG", "SEP", "OCT", "NOV", "DEC"]
  ((months.map String.toList).idxOf? name).elim 0 (· + 1)

/-- Where a number stands in the general order: texts first, then what is no number, then the
numbers. -/
def generalRank (text : Bytes) : Nat × Option Binary :=
  match Numeral.read? text with
  | none => (0, none)
  | some (n, _) =>
    match n.toBinary .extended with
    | .unordered _ => (1, none)
    | b => (2, some b)

/-- Compares numbers of the machine. -/
def compareBinary (a b : Binary) : Ordering :=
  let size (x : Binary) : Int × Int × Nat :=
    match x with
    | .infinite s => (if s then -1 else 1, 0, 1)
    | x =>
      let (n, d) := x.ratio
      (0, if x.isNegative then -(n : Int) else n, d)
  let (i, n, d) := size a
  let (j, m, e) := size b
  (Ord.compare i j).then (Ord.compare (n * e) (m * d))

/-- Compares texts byte by byte. -/
def compareBytes : Bytes → Bytes → Ordering
  | [], [] => .eq
  | [], _ => .lt
  | _, [] => .gt
  | a :: as, b :: bs => (Ord.compare a.toNat b.toNat).then (compareBytes as bs)

namespace Manner

/-- The text of which only what counts is left. -/
def plain (m : Manner) (text : Bytes) : Bytes :=
  let text := if 'd' ∈ m then text.filter fun c => c.isAlphanum || SortKey.isGap c else text
  let text := if 'i' ∈ m then text.filter isShowable else text
  if 'f' ∈ m then text.map Char.toUpper else text

/-- Compares parts of lines. -/
def compare (m : Manner) (a b : Bytes) : Ordering :=
  let o : Ordering :=
    if 'n' ∈ m then (leadingDecimal a).1.compare (leadingDecimal b).1
    else if 'g' ∈ m then
      let (i, x?) := generalRank a
      let (j, y?) := generalRank b
      (Ord.compare i j).then (match x?, y? with
        | some x, some y => compareBinary x y
        | _, _ => .eq)
    else if 'h' ∈ m then
      let (x, restA) := leadingDecimal a
      let (y, restB) := leadingDecimal b
      (Ord.compare (unitRank x restA) (unitRank y restB)).then (x.compare y)
    else if 'M' ∈ m then Ord.compare (monthNumber a) (monthNumber b)
    else if 'V' ∈ m then Text.Version.compareNames (m.plain a) (m.plain b)
    else compareBytes (m.plain a) (m.plain b)
  if 'r' ∈ m then o.swap else o

/-- The letters of two ways that cannot both be meant. -/
def conflict? (m : Manner) : Option Bytes :=
  let count (cs : String) : Nat := if cs.toList.any (· ∈ m) then 1 else 0
  let ways := count "n" + count "g" + count "h" + count "M" + count "VRdi"
  if 1 < ways then some ("dfghiMnRV".toList.filter (· ∈ m)) else none

end Manner

/-! ## Keys -/

namespace SortKey

/-- What is wrong with a key. -/
def fault (text why : Bytes) : Bytes :=
  why ++ ": invalid field specification ".toList ++ inQuotes text

/-- The number at the start of a text, and what follows it. -/
def number (why : String) (text : Bytes) : Except Bytes (Nat × Bytes) :=
  let digits := text.takeWhile Char.isDigit
  if digits = [] then
    .error (why.toList ++ ": invalid count at start of ".toList ++ inQuotes text)
  else .ok (digitsValue digits, text.drop digits.length)

/-- The letters at the start of a text, and what follows them. -/
def mannerLetters (text : Bytes) : Bytes × Bytes :=
  let isLetter (c : Char) : Bool := c ∈ "bdfghiMnRrV".toList
  (text.takeWhile isLetter, text.dropWhile isLetter)

/-- The number after a point at the start of a text, if there is one, and what follows it. -/
def pointed (why : String) (text : Bytes) : Except Bytes (Option Nat × Bytes) :=
  match text with
  | '.' :: rest => do
    let (n, rest) ← number why rest
    return (some n, rest)
  | _ => .ok (none, text)

/-- Reads a key. -/
def ofText (text : Bytes) : Except Bytes SortKey := do
  let (field, rest) ← number "invalid number at field start" text
  if field = 0 then throw (fault text "field number is zero".toList)
  let (character, rest) ← pointed "invalid number after '.'" rest
  if character = some 0 then throw (fault text "character offset is zero".toList)
  let (startLetters, rest) := mannerLetters rest
  let (last, endCharacter, endLetters, rest) ← (match rest with
    | ',' :: rest => do
      let (field, rest) ← number "invalid number after ','" rest
      if field = 0 then throw (fault text "field number is zero".toList)
      let (character, rest) ← pointed "invalid number after '.'" rest
      let (letters, rest) := mannerLetters rest
      return (some (field - 1), character.getD 0, letters, rest)
    | _ => return (none, 0, [], rest) : Except Bytes (Option Nat × Nat × Bytes × Bytes))
  if rest ≠ [] then throw (fault text "stray character in field spec".toList)
  let letters := startLetters ++ endLetters
  return ⟨field - 1, (character.getD 1) - 1, last, endCharacter, letters.filter (· ≠ 'b'),
    'b' ∈ startLetters, 'b' ∈ endLetters⟩

/-- The text of a key that is given by what is skipped, in the form in which others are written. The
flag says whether it tells the end of the part. -/
def oldText (isEnd : Bool) (text : Bytes) : Bytes :=
  let field := text.takeWhile Char.isDigit
  let rest := text.drop field.length
  let (character, letters) : Option Nat × Bytes := match rest with
    | '.' :: rest => (some (digitsValue (rest.takeWhile Char.isDigit)), rest.dropWhile Char.isDigit)
    | _ => (none, rest)
  let n := digitsValue field
  let next : Bytes := Bytes.ofInt (n + 1 : Nat)
  if isEnd then
    match character.getD 0 with
    | 0 => Bytes.ofInt n ++ letters
    | k => next ++ '.' :: Bytes.ofInt k ++ letters
  else
    match character with
    | some k => next ++ '.' :: Bytes.ofInt (k + 1 : Nat) ++ letters
    | none => next ++ letters

/-- Arguments with keys in the form in which others are written. -/
def modernArguments : List Bytes → List Bytes
  | [] => []
  | ['-', '-'] :: rest => ['-', '-'] :: rest
  | ('+' :: c :: cs) :: ('-' :: d :: ds) :: rest =>
    let start := if c.isDigit then "-k".toList ++ oldText false (c :: cs) else '+' :: c :: cs
    if c.isDigit && d.isDigit then
      (start ++ ',' :: oldText true (d :: ds)) :: modernArguments rest
    else start :: ('-' :: d :: ds) :: modernArguments rest
  | ('+' :: c :: cs) :: rest =>
    (if c.isDigit then "-k".toList ++ oldText false (c :: cs) else '+' :: c :: cs) ::
      modernArguments rest
  | a :: rest => a :: modernArguments rest

end SortKey

/-! ## Lines -/

/-- How lines are sorted. -/
structure Sorting where
  mark : Option Char
  keys : List SortKey
  /-- How lines are compared where keys do not say it. -/
  manner : Manner
  isUnique : Bool
  isStable : Bool

namespace Sorting

/-- Compares lines by their keys alone. -/
def compareKeys (s : Sorting) (a b : Bytes) : Ordering :=
  s.keys.foldl
    (fun o k => o.then (k.manner.compare (k.part s.mark a) (k.part s.mark b))) .eq

/-- Compares lines. -/
def compare (s : Sorting) (a b : Bytes) : Ordering :=
  let o := s.compareKeys a b
  if o ≠ .eq || (s.keys ≠ [] && (s.isUnique || s.isStable)) then o
  else if 'r' ∈ s.manner then compareBytes b a
  else compareBytes a b

/-- Whether a line may come before another one. -/
def isAtMost (s : Sorting) (a b : Bytes) : Bool := s.compare a b ≠ .gt

/-- Lines of which only the first one is left of those that are the same. -/
def unique (s : Sorting) : List Bytes → List Bytes
  | [] => []
  | line :: rest =>
    let rec go (line : Bytes) : List Bytes → List Bytes
      | [] => [line]
      | next :: rest => if s.compare line next = .eq then go line rest else line :: go next rest
    go line rest

/-- The least of the first lines of some files, which is taken away. -/
def takeLeast (s : Sorting) : List (List Bytes) → Option (Bytes × List (List Bytes))
  | [] => none
  | [] :: others => (takeLeast s others).map fun (line, rest) => (line, [] :: rest)
  | (line :: lines) :: others =>
    match takeLeast s others with
    | some (least, rest) =>
      if s.isAtMost line least then some (line, lines :: others)
      else some (least, (line :: lines) :: rest)
    | none => some (line, lines :: others)

/-- The lines of files that are sorted already. The number bounds how many there are. -/
def merged (s : Sorting) : Nat → List (List Bytes) → List Bytes
  | 0, _ => []
  | n + 1, files =>
    match s.takeLeast files with
    | some (line, rest) => line :: merged s n rest
    | none => []

/-- The first line that is not in its place, with its number. -/
def disorder? (s : Sorting) : Nat → List Bytes → Option (Nat × Bytes)
  | n, a :: b :: rest =>
    let o := s.compare a b
    if o = .gt || (s.isUnique && o = .eq) then some (n + 1, b) else disorder? s (n + 1) (b :: rest)
  | _, _ => none

end Sorting

/-! ## The program -/

/-- The options of the program. -/
def sortForms : List OptionForm :=
  [flag 'b' "ignore-leading-blanks", flag 'd' "dictionary-order", flag 'f' "ignore-case",
    flag 'g' "general-numeric-sort", flag 'i' "ignore-nonprinting", flag 'M' "month-sort",
    flag 'h' "human-numeric-sort", flag 'n' "numeric-sort", flag 'R' "random-sort",
    longValued "random-source", flag 'r' "reverse", longValued "sort", flag 'V' "version-sort",
    longValued "batch-size", flag 'c' "", longVariant "check", flag 'C' "",
    longValued "compress-program", longFlag "debug", longValued "files0-from", valued 'k' "key",
    flag 'm' "merge", valued 'o' "output", flag 's' "stable", valued 'S' "buffer-size",
    valued 't' "field-separator", valued 'T' "temporary-directory", longValued "parallel",
    flag 'u' "unique", flag 'z' "zero-terminated"]

/-- The letter that a word for a way to compare stands for. -/
def sortLetters : List (String × Char) :=
  [("general-numeric", 'g'), ("human-numeric", 'h'), ("month", 'M'), ("numeric", 'n'),
    ("random", 'R'), ("version", 'V')]

/-- The character that separates fields. -/
def sortMark (texts : List Bytes) : Except Bytes (Option Char) := do
  let mut found : Option Char := none
  for text in texts do
    let mark ← match text with
      | [] => throw "empty tab".toList
      | [c] => pure c
      | ['\\', '0'] => pure '\x00'
      | _ => throw ("multi-character tab ".toList ++ inQuotes text)
    if found.any (· ≠ mark) then throw "incompatible tabs".toList
    found := some mark
  return found

/-- How lines are sorted, as options say. -/
def sortingOf (g : Given) (extra : Bytes) : Except Bytes Sorting := do
  let mark ← sortMark (g.values "t")
  let given ← (g.values "k").mapM SortKey.ofText
  let letters := ("dfghiMnRrV".toList.filter fun c => g.has (String.singleton c)) ++ extra
  let skips := g.has "b"
  let isOwn (k : SortKey) : Bool := k.manner ≠ [] || k.skipsStartBlanks || k.skipsEndBlanks
  let inherit (k : SortKey) : SortKey :=
    if isOwn k then k
    else { k with manner := letters, skipsStartBlanks := skips, skipsEndBlanks := skips }
  let whole : List SortKey :=
    if given = [] && (letters.any (· ≠ 'r') || skips) then
      [⟨0, 0, none, 0, letters, skips, skips⟩]
    else []
  let keys := given.map inherit ++ whole
  for m in keys.map (·.manner) ++ [letters] do
    match m.conflict? with
    | some cs => throw (filled "options '-%' are incompatible" [cs])
    | none => pure ()
  return ⟨mark, keys, letters, g.has "u", g.has "s"⟩

/-- The contents that operands name. All of them have to be there. -/
def sortContents (c : Call) (paths : List Bytes) : Action (Option (List Bytes)) := do
  for path in paths do
    if path ≠ ['-'] then
      match (← get).openPath .reading path with
      | .error e =>
        c.say (filled "cannot read: %: %" [named path, describe e])
        return none
      | .ok _ => pure ()
  let mut found : List Bytes := []
  for path in paths do
    match ← Call.contentOf path with
    | .ok content => found := found ++ [content]
    | .error e =>
      c.say (filled "read failed: %: %" [named path, describe e])
      return none
  return some found

/-- Sorts lines of files, merges them or checks their order. -/
def sort : Tool := fun call => do
  let c : Call := { call with arguments := SortKey.modernArguments call.arguments }
  c.withOptionsUpTo false 2 sortForms fun g => do
    let words := sortLetters.map (·.1)
    match (g.values "sort").find? fun w => !words.any fun k => w.isPrefixOf k.toList with
    | some w =>
      let _ ← c.withChoice "--sort" words w fun _ => return 0
      return 1
    | none => pure ()
    let extra := (g.values "sort").filterMap fun w =>
      (sortLetters.find? fun k => w.isPrefixOf k.1.toList).map (·.2)
    let checks := g.values "check"
    let quiet := ["quiet".toList, "silent".toList]
    match checks.find? fun w => w ≠ [] && !quiet.contains w && w ≠ "diagnose-first".toList with
    | some w =>
      c.say (filled "invalid argument % for '--check'" [inSingleQuotes w])
      complain "Valid arguments are:\n  - 'quiet', 'silent'\n  - 'diagnose-first'".toList
      complain c.hint
      return 1
    | none => pure ()
    match sortingOf g extra with
    | .error text => c.fail 2 text
    | .ok s =>
      let mark := if g.has "z" then '\x00' else '\n'
      let listed : Option Bytes ← match g.value? "files0-from" with
        | some path =>
          match ← Call.contentOf path with
          | .ok content => pure (some content)
          | .error e => return ← c.fail 2 (filled "open failed: %: %" [named path, describe e])
        | none => pure none
      let paths := match listed with
        | some content => ((endedBy '\x00' content).map (withoutMark '\x00'))
        | none => Call.orInput g.operands
      let isSilent := g.has "C" || checks.any quiet.contains
      let isChecking := isSilent || g.has "c" || checks ≠ []
      if isChecking then
        match paths with
        | _ :: extra :: _ =>
          return ← c.fail 2 (filled "extra operand % not allowed with -%"
            [inSingleQuotes extra, if isSilent then ['C'] else ['c']])
        | _ => pure ()
        if (g.value? "o").isSome then
          return ← c.fail 2 (filled "options '-%o' are incompatible" [if isSilent then ['C'] else ['c']])
      match ← sortContents c paths with
      | none => return 2
      | some contents =>
        let linesOf (content : Bytes) : List Bytes :=
          (endedBy mark content).map (withoutMark mark)
        if isChecking then
          match s.disorder? 1 (contents.flatMap linesOf) with
          | none => return 0
          | some (n, line) =>
            if isSilent then return 1
            c.fail 1 (filled "%:%: disorder: %" [paths.headD ['-'], Bytes.ofInt n, line])
        else
          let lines :=
            if g.has "m" then
              let files := contents.map linesOf
              s.merged ((files.map List.length).foldl (· + ·) 1) files
            else (contents.flatMap linesOf).mergeSort s.isAtMost
          let lines := if s.isUnique then s.unique lines else lines
          let text := lines.flatMap (· ++ [mark])
          match g.value? "o" with
          | none =>
            print text
            return 0
          | some path =>
            match ← Call.putPath .writing path text with
            | .ok () => return 0
            | .error e => c.fail 2 (filled "open failed: %: %" [named path, describe e])

end TokenConformance.Sandbox.Shell.Tool
