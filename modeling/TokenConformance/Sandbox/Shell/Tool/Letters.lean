import TokenConformance.Sandbox.Shell.Tool.Basic
import TokenConformance.Sandbox.Text.CharSet

/-! # The program that changes characters

* `Group`: what a list of characters consists of; `Group.read` reads one.
* `Letters`: the lists that are given; `Letters.fault?` says why they do not fit together.
* `translation`: what every character becomes.
* `tr`: changes, leaves out and joins characters.
-/

namespace TokenConformance.Sandbox.Shell.Tool

open Sandbox.Text (Bytes classTest?)

/-- A part of a list of characters. -/
inductive Group where
  | one (c : Char)
  | range (first last : Char)
  | named (name : String)
  /-- The characters that count as the same as one. -/
  | like (c : Char)
  /-- A character so many times, or as often as there is room. -/
  | times (c : Char) (count : Option Nat)
deriving DecidableEq, Inhabited

/-- All bytes in their order. -/
def allBytes : Bytes := (List.range 256).map Char.ofNat

namespace Group

/-- The characters of a group. A group that takes all the room there is has none of its own. -/
def characters : Group → Bytes
  | one c => [c]
  | range first last => (List.range (last.toNat + 1 - first.toNat)).map fun i =>
      Char.ofNat (first.toNat + i)
  | named name => allBytes.filter ((classTest? name).getD fun _ => false)
  | like c => [c]
  | times c count => List.replicate (count.getD 0) c

/-- Whether a group is one of upper case or lower case. -/
def isCase : Group → Bool
  | named name => name = "upper" || name = "lower"
  | _ => false

/-! ## Reading -/

/-- The characters of a list with their escapes replaced, each with whether it was one, and what there
is to say about it. -/
def unescape : Nat → Bytes → List (Char × Bool) × List Bytes
  | 0, _ => ([], [])
  | _, [] => ([], [])
  | _, ['\\'] =>
    ([('\\', false)], ["warning: an unescaped backslash at end of string is not portable".toList])
  | n + 1, '\\' :: c :: rest =>
    let isOctal (c : Char) : Bool := '0' ≤ c && c ≤ '7'
    let digits := ((c :: rest).take 3).takeWhile isOctal
    let value (ds : Bytes) : Nat := ds.foldl (fun n d => n * 8 + (d.toNat - 48)) 0
    if digits ≠ [] then
      let isLarge := value digits > 255
      let used := if isLarge then digits.take 2 else digits
      let (more, notes) := unescape n ((c :: rest).drop used.length)
      let note : Bytes := filled
        "warning: the ambiguous octal escape \\% is being\n\tinterpreted as the 2-byte sequence \\0%, %"
        [digits, digits.take 2, digits.drop 2]
      ((Char.ofNat (value used), true) :: more, if isLarge then note :: notes else notes)
    else
      let plain : Char := match c with
        | 'a' => '\x07'
        | 'b' => '\x08'
        | 'f' => '\x0c'
        | 'n' => '\n'
        | 'r' => '\r'
        | 't' => '\t'
        | 'v' => '\x0b'
        | c => c
      let (more, notes) := unescape n rest
      ((plain, true) :: more, notes)
  | n + 1, c :: rest =>
    let (more, notes) := unescape n rest
    ((c, false) :: more, notes)

/-- What stands before a mark and a bracket that close something, and what follows them. -/
def closedBy (mark : Char) : List (Char × Bool) → Option (Bytes × List (Char × Bool))
  | (c, false) :: (']', false) :: rest =>
    if c = mark then some ([], rest)
    else (closedBy mark ((']', false) :: rest)).map fun (text, rest) => (c :: text, rest)
  | (c, _) :: rest => (closedBy mark rest).map fun (text, rest) => (c :: text, rest)
  | [] => none

/-- A repeated character after its bracket, and what follows it. -/
def repetition? (cs : List (Char × Bool)) : Except Bytes (Option (Group × List (Char × Bool))) :=
  match cs with
  | (c, _) :: ('*', false) :: rest =>
    let isClosing (x : Char × Bool) : Bool := x = (']', false)
    let digits := (rest.takeWhile fun x => !isClosing x).map (·.1)
    match rest.drop digits.length with
    | [] => .ok none
    | _ :: after =>
      let isOctal := digits.head? = some '0'
      let isGood := digits.all fun c => c.isDigit && (!isOctal || c ≤ '7')
      if !isGood then
        .error ("invalid repeat count ".toList ++ inSingleQuotes digits ++
          " in [c*n] construct".toList)
      else
        let base := if isOctal then 8 else 10
        let count := digits.foldl (fun n d => n * base + (d.toNat - 48)) 0
        .ok (some (times c (if count = 0 then none else some count), after))
  | _ => .ok none

/-- Whether a text looks like the end of a repetition. -/
def looksRepeated (cs : List (Char × Bool)) : Bool :=
  match cs with
  | ('*', false) :: rest =>
    (rest.dropWhile fun c => c.1.isDigit).head? = some (']', false)
  | _ => false

/-- A character as it is shown in messages. -/
def shown (c : Char) : Bytes := if isShowable c then [c] else escapeOf c

/-- The group in brackets at the start of a list, if there is one, and what follows it. -/
def bracketed? (cs : List (Char × Bool)) :
    Except Bytes (Option (Group × List (Char × Bool))) :=
  match cs with
  | ('[', false) :: (mark, false) :: rest =>
    if mark = ':' || mark = '=' then
      match closedBy mark rest with
      | none => repetition? (cs.drop 1)
      | some ([], _) =>
        .error ((if mark = ':' then "missing character class name '[::]'"
          else "missing equivalence class character '[==]'").toList)
      | some (name, after) =>
        let isRepeated := looksRepeated rest
        if mark = ':' then
          if (classTest? (String.ofList name)).isSome then
            .ok (some (named (String.ofList name), after))
          else if isRepeated then repetition? (cs.drop 1)
          else .error ("invalid character class ".toList ++ inSingleQuotes name)
        else
          match name with
          | [c] => .ok (some (like c, after))
          | _ =>
            if isRepeated then repetition? (cs.drop 1)
            else .error (name ++
              ": equivalence class operand must be a single character".toList)
    else repetition? (cs.drop 1)
  | ('[', false) :: rest => repetition? rest
  | _ => .ok none

/-- Reads a list without escapes. The number bounds how many groups there are. -/
def readAll : Nat → List (Char × Bool) → Except Bytes (List Group)
  | 0, _ => .ok []
  | _, [] => .ok []
  | n + 1, (c, quoted) :: rest => do
    let bracketed ← if rest.length < 2 then pure none else bracketed? ((c, quoted) :: rest)
    match bracketed, rest with
    | some (group, after), _ => return group :: (← readAll n after)
    | none, ('-', false) :: (last, _) :: after =>
      if last < c then
        throw (filled "range-endpoints of '%-%' are in reverse collating sequence order"
          [shown c, shown last])
      else return range c last :: (← readAll n after)
    | none, _ => return one c :: (← readAll n rest)

/-- Reads a list of characters. What there is to say about it comes with it. -/
def read (text : Bytes) : Except Bytes (List Group) × List Bytes :=
  let (cs, notes) := unescape (text.length + 1) text
  (readAll (cs.length + 1) cs, notes)

end Group

/-- The lists of characters that are given. -/
structure Letters where
  first : List Group
  second : Option (List Group)
  isComplement : Bool
  isTruncated : Bool
  /-- Whether characters become others. -/
  isTranslating : Bool
deriving DecidableEq, Inhabited

/-- The characters of groups. -/
def charactersOf (groups : List Group) : Bytes := groups.flatMap Group.characters

namespace Letters

/-- The characters that are meant first. -/
def domain (l : Letters) : Bytes :=
  let cs := charactersOf l.first
  if l.isComplement then allBytes.filter fun c => !cs.contains c else cs

/-- The second list with a group that takes all the room filled up. -/
def image (l : Letters) : List Group :=
  let groups := l.second.getD []
  let room := l.domain.length - (charactersOf groups).length
  groups.map fun
    | .times c none => .times c (some room)
    | group => group

/-- Whether a group takes all the room there is. -/
def takesRoom : Group → Bool
  | .times _ none => true
  | _ => false

/-- Whether groups of upper and lower case stand at the same places in two lists. The number bounds
how long the lists are. -/
def areAligned : Nat → List Group → List Group → Bool
  | 0, _, _ => true
  | n + 1, first, second =>
    match first, second with
    | a :: as, b :: bs =>
      if b.isCase then a.isCase && areAligned n as bs
      else
        match a.characters, b.characters with
        | [], _ => areAligned n as second
        | _, [] => areAligned n first bs
        | xs, ys =>
          let k := min xs.length ys.length
          let left (cs : Bytes) (rest : List Group) : List Group :=
            if cs = [] then rest else cs.map Group.one ++ rest
          areAligned n (left (xs.drop k) as) (left (ys.drop k) bs)
    | _, b :: bs => !b.isCase && areAligned n [] bs
    | _, [] => true

/-- Why the lists do not fit together. -/
def fault? (l : Letters) : Option String :=
  let second := l.second.getD []
  let isRestricted : Group → Bool
    | .named name => name ≠ "upper" && name ≠ "lower"
    | _ => false
  let isLike : Group → Bool
    | .like _ => true
    | _ => false
  let isNamed : Group → Bool
    | .named _ => true
    | _ => false
  let image := charactersOf l.image
  let length := l.domain.length
  let longest := (charactersOf l.first).length + image.length + l.first.length + second.length
  if l.first.any takesRoom then some "the [c*] repeat construct may not appear in string1"
  else if 1 < second.countP takesRoom then
    some "only one [c*] repeat construct may appear in string2"
  else if l.second.isNone then none
  else if !l.isTranslating then
    if second.any takesRoom then
      some "the [c*] construct may appear in string2 only when translating"
    else none
  else if second.any isLike then
    some "[=c=] expressions may not appear in string2 when translating"
  else if second.any isRestricted then
    some ("when translating, the only character classes that may appear in\n" ++
      "string2 are 'upper' and 'lower'")
  else if !l.isComplement && !areAligned (longest + 1) l.first l.image then
    some "misaligned [:upper:] and/or [:lower:] construct"
  else if image.length < length && !l.isTruncated && image = [] then
    some "when not truncating set1, string2 must be non-empty"
  else if image.length < length && !l.isTruncated && (second.getLast?.map isNamed).getD false then
    some ("when translating with string1 longer than string2,\n" ++
      "the latter string must not end with a character class")
  else if l.isComplement && l.first.any isNamed &&
      !(image.all fun c => some c = image.head?) then
    some ("when translating with complemented character classes,\n" ++
      "string2 must map all characters in the domain to one")
  else none

/-- Characters with what they become. Groups of upper and lower case become each other. The number
bounds how long the lists are. -/
def pairs : Nat → List Group → List Group → Char → List (Char × Char)
  | 0, _, _, _ => []
  | n + 1, first, second, last =>
    match first, second with
    | [], _ => []
    | .named x :: as, .named y :: bs =>
      let own := (Group.named x).characters
      let other := if y = "upper" then own.map Char.toUpper else own.map Char.toLower
      (if x = y then [] else own.zip other) ++ pairs n as bs last
    | a :: as, [] => (a.characters.map (·, last)) ++ pairs n as [] last
    | a :: as, b :: bs =>
      match a.characters, b.characters with
      | [], _ => pairs n as second last
      | _, [] => pairs n first bs last
      | xs, ys =>
        let k := min xs.length ys.length
        let left (cs : Bytes) (rest : List Group) : List Group :=
          if cs = [] then rest else cs.map Group.one ++ rest
        xs.zip ys ++ pairs n (left (xs.drop k) as) (left (ys.drop k) bs) last

/-- What every character becomes. A later pair counts more than an earlier one. -/
def translation (l : Letters) : Char → Char :=
  let image := l.image
  let last := (charactersOf image).getLastD 'x'
  let domain : List Group := if l.isComplement then l.domain.map Group.one else l.first
  let longest := (charactersOf domain).length + (charactersOf image).length + domain.length +
    image.length
  let all := pairs (longest + 1) domain image last
  let kept := if l.isTruncated then all.take (charactersOf image).length else all
  let table : Array Char := kept.foldl
    (fun (t : Array Char) p => t.setIfInBounds p.1.toNat p.2) allBytes.toArray
  fun c => table.getD c.toNat c

end Letters

/-- A text in which some characters do not follow themselves. -/
def squeezed (isMeant : Char → Bool) (text : Bytes) : Bytes :=
  (text.foldl
    (fun (found : Bytes) c => if isMeant c && found.head? = some c then found else c :: found)
    []).reverse

/-- Changes, leaves out and joins characters. -/
def tr : Tool := fun c =>
  c.withOptionsUpTo true 1
    [flag 'c' "complement", flag 'C' "", flag 'd' "delete", flag 's' "squeeze-repeats",
      flag 't' "truncate-set1"] fun g => do
    let deletes := g.has "d"
    let squeezes := g.has "s"
    let least := if deletes = squeezes then 2 else 1
    let most := if deletes && !squeezes then 1 else 2
    if g.operands.length < least then
      match g.operands.getLast? with
      | none => return ← c.misused 1 "missing operand".toList
      | some last =>
        c.say ("missing operand after ".toList ++ inSingleQuotes last)
        complain (if squeezes then
            "Two strings must be given when both deleting and squeezing repeats."
          else "Two strings must be given when translating.").toList
        return ← c.misused 1 []
    if let some extra := g.operands[most]? then
      c.say ("extra operand ".toList ++ inSingleQuotes extra)
      if g.operands.length = 2 then
        complain "Only one string may be given when deleting without squeezing repeats.".toList
      return ← c.misused 1 []
    let (first, notes) := Group.read (g.operands.headD [])
    for note in notes do c.say note
    match first with
    | .error text => c.fail 1 text
    | .ok first =>
      let (second, notes) : Except Bytes (Option (List Group)) × List Bytes := match g.operands[1]? with
        | none => (.ok none, [])
        | some text => let (r, notes) := Group.read text; (r.map some, notes)
      for note in notes do c.say note
      match second with
      | .error text => c.fail 1 text
      | .ok second =>
        let isTranslating := second.isSome && !deletes
        let l : Letters :=
          { first, second, isTranslating
            isComplement := g.has "c" || g.has "C"
            isTruncated := g.has "t" && isTranslating }
        match l.fault? with
        | some text => c.fail 1 text.toList
        | none =>
          let domain := l.domain
          let image := charactersOf l.image
          let becomes := l.translation
          match ← readAll 0 with
          | .error e => c.fail 1 ("read error: ".toList ++ describe e)
          | .ok text =>
            let text := if deletes then text.filter fun c => !domain.contains c
              else if isTranslating then text.map becomes else text
            let joins := if second.isSome then image else domain
            print (if squeezes then squeezed joins.contains text else text)
            return 0

end TokenConformance.Sandbox.Shell.Tool
