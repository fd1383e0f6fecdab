import TokenConformance.Sandbox.Text.Attempt.Basic

/-! # Reading expressions whose ways of matching are tried in turn

* `Attempt.Manner`: how letters are read, which may change inside an expression.
* `Attempt.Reading`: how far an expression has been read.
* `Attempt.readSet`: a set of characters between brackets.
* `Attempt.readChoice`: branches with bars between them.
* `Attempt.read`: reads an expression, or tells what is wrong with it.
-/

namespace TokenConformance.Sandbox.Text.Attempt

open Sandbox.Text (Bytes)

/-- How letters are read. -/
structure Manner where
  ignoresCase : Bool
  /-- Whether a dot stands for the end of a line as well. -/
  dotTakesAll : Bool
  /-- Whether lines start and end inside a text. -/
  hasLines : Bool
  /-- Whether blanks do not count. -/
  skipsBlanks : Bool
deriving DecidableEq, Inhabited

/-- How far an expression has been read. -/
structure Reading where
  rest : Bytes
  /-- How many groups have been opened. -/
  count : Nat
  names : List (Bytes × Nat)
  /-- The highest number of a group that has been referred to. -/
  highest : Nat
  manner : Manner
deriving Inhabited

/-- Reads something, or tells what is wrong. -/
abbrev Reader (α : Type) := StateT Reading (Except String) α

/-- The characters that are left. -/
def left : Reader Bytes := do return (← get).rest

/-- Goes on behind some characters. -/
def skip (n : Nat) : Reader Unit := modify fun s => { s with rest := s.rest.drop n }

/-- Goes on with other characters. -/
def goOn (rest : Bytes) : Reader Unit := modify fun s => { s with rest }

/-- Takes a character if it is the next one. -/
def taken (c : Char) : Reader Bool := do
  match ← left with
  | d :: rest =>
    if c = d then
      goOn rest
      return true
    else return false
  | [] => return false

/-- The value of digits in a base. -/
def valueOf (base : Nat) (digits : Bytes) : Nat :=
  digits.foldl
    (fun n c => n * base + (if c.isDigit then c.toNat - 48 else c.toLower.toNat - 87)) 0

/-- Whether a character is an octal digit. -/
def isOctalDigit (c : Char) : Bool := '0' ≤ c && c ≤ '7'

/-- The text up to a mark, and what follows the mark. -/
def upTo? (mark : Bytes) : Bytes → Option (Bytes × Bytes)
  | [] => none
  | c :: rest =>
    if mark.isPrefixOf (c :: rest) then some ([], (c :: rest).drop mark.length)
    else (upTo? mark rest).map fun (text, after) => (c :: text, after)

/-! ## Characters -/

/-- Whether a character is one of the spaces inside a line. -/
def isInnerSpace (c : Char) : Bool := c = ' ' || c = '\t' || c.toNat = 0xA0

/-- Whether a character ends a line. -/
def isLineMark (c : Char) : Bool := (10 ≤ c.toNat && c.toNat ≤ 13) || c.toNat = 0x85

/-- The characters that a letter after a backslash stands for, with whether all others are meant. -/
def shorthand? : Char → Option ((Char → Bool) × Bool)
  | 'd' => some (Char.isDigit, false)
  | 'D' => some (Char.isDigit, true)
  | 'w' => some (isWordChar, false)
  | 'W' => some (isWordChar, true)
  | 's' => some (isSpace, false)
  | 'S' => some (isSpace, true)
  | 'h' => some (isInnerSpace, false)
  | 'H' => some (isInnerSpace, true)
  | 'v' => some (isLineMark, false)
  | 'V' => some (isLineMark, true)
  | _ => none

/-- Whether a character above the first 128 is a letter. -/
def isHighLetter (n : Nat) : Bool :=
  n ∈ [0xAA, 0xB5, 0xBA] || (0xC0 ≤ n && n ≠ 0xD7 && n ≠ 0xF7)

/-- Whether a character is a small letter. -/
def isSmall (c : Char) : Bool :=
  c.isLower || c.toNat = 0xB5 || (0xDF ≤ c.toNat && c.toNat ≠ 0xF7)

/-- Whether a character is a capital letter. -/
def isCapital (c : Char) : Bool :=
  c.isUpper || (0xC0 ≤ c.toNat && c.toNat < 0xDF && c.toNat ≠ 0xD7)

/-- Whether a character is a sign that is no punctuation. -/
def isSymbol (c : Char) : Bool :=
  c ∈ "$+<=>^\x60|~".toList ||
    c.toNat ∈ [0xA2, 0xA3, 0xA4, 0xA5, 0xA6, 0xA8, 0xA9, 0xAC, 0xAE, 0xAF, 0xB0, 0xB1, 0xB4, 0xB8,
      0xD7, 0xF7]

/-- The characters with a property. -/
def property? (name : String) : Option (Char → Bool) :=
  let isLetter (c : Char) : Bool := c.isAlpha || isHighLetter c.toNat
  let isNumber (c : Char) : Bool := c.isDigit || c.toNat ∈ [0xB2, 0xB3, 0xB9, 0xBC, 0xBD, 0xBE]
  match name with
  | "L" => some isLetter
  | "L&" => some fun c => isSmall c || isCapital c
  | "Lu" => some isCapital
  | "Ll" => some isSmall
  | "N" => some isNumber
  | "Nd" => some Char.isDigit
  | "P" => some fun c => (isGraph c && !c.isAlphanum && !isSymbol c) ||
      c.toNat ∈ [0xA1, 0xA7, 0xAB, 0xB6, 0xB7, 0xBB, 0xBF]
  | "S" => some isSymbol
  | "Z" | "Zs" => some fun c => c = ' ' || c.toNat = 0xA0
  | "C" => some fun c => c.toNat < 32 || (127 ≤ c.toNat && c.toNat < 160) || c.toNat = 0xAD
  | "Cc" => some fun c => c.toNat < 32 || (127 ≤ c.toNat && c.toNat < 160)
  | "Any" => some fun _ => true
  | "Xan" => some fun c => isLetter c || isNumber c
  | "Xwd" => some fun c => isLetter c || isNumber c || c = '_'
  | "Xsp" | "Xps" => some fun c => isSpace c || c.toNat = 0x85 || c.toNat = 0xA0
  | _ => none

/-- The characters of a class between brackets. -/
def classNamed? (name : String) : Option (Char → Bool) :=
  match name with
  | "word" => some isWordChar
  | "ascii" => some fun c => c.toNat < 128
  | _ => classTest? name

/-- Reads the property after a backslash and a letter. -/
def readProperty : Reader ((Char → Bool) × Bool) := do
  let malformed : String := "malformed \\P or \\p sequence"
  match ← left with
  | '\x7b' :: rest =>
    match upTo? ['\x7d'] rest with
    | none => throw malformed
    | some (name, after) =>
      goOn after
      let (isNegated, name) := match name with
        | '^' :: name => (true, name)
        | name => (false, name)
      match property? (String.ofList name) with
      | some test => return (test, isNegated)
      | none => throw "unknown property after \\P or \\p"
  | c :: rest =>
    goOn rest
    if !c.isAlpha then throw malformed
    match property? (String.singleton c) with
    | some test => return (test, false)
    | none => throw "unknown property after \\P or \\p"
  | [] => throw malformed

/-- The character that a letter after a backslash stands for. The letter has been read. -/
def readCharacter (c : Char) : Reader Char := do
  let rest ← left
  match c with
  | 'a' => return '\x07'
  | 'e' => return '\x1b'
  | 'f' => return '\x0c'
  | 'n' => return '\n'
  | 'r' => return '\r'
  | 't' => return '\t'
  | 'c' =>
    match rest with
    | [] => throw "\\c at end of pattern"
    | d :: rest => do
      goOn rest
      if d.toNat < 32 || 126 < d.toNat then
        throw "\\c must be followed by a printable ASCII character"
      return Char.ofNat (d.toUpper.toNat ^^^ 64)
  | 'o' =>
    match rest with
    | '\x7b' :: rest => braced 8 isOctalDigit "non-octal character in \\o\x7b\x7d (closing brace missing?)" rest
    | _ => throw "missing opening brace after \\o"
  | 'x' =>
    match rest with
    | '\x7b' :: rest =>
      braced 16 isHexDigit "non-hex character in \\x\x7b\x7d (closing brace missing?)" rest
    | _ => do
      let digits := (rest.take 2).takeWhile isHexDigit
      skip digits.length
      return Char.ofNat (valueOf 16 digits)
  | _ =>
    if c.isDigit then do
      let digits := c :: (rest.take 2).takeWhile isOctalDigit
      skip (digits.length - 1)
      return Char.ofNat (valueOf 8 digits % 256)
    else if c ∈ "FLlNUu".toList then
      throw "PCRE2 does not support \\F, \\L, \\l, \\N\x7bname\x7d, \\U, or \\u"
    else if c.isAlpha then throw "unrecognized character follows \\"
    else return c
where
  /-- A number between braces. -/
  braced (base : Nat) (isDigit : Char → Bool) (fault : String) (rest : Bytes) : Reader Char := do
    let digits := rest.takeWhile isDigit
    if digits = [] then throw "digits missing in \\x\x7b\x7d or \\o\x7b\x7d or \\N\x7bU+\x7d"
    match rest.drop digits.length with
    | '\x7d' :: after =>
      goOn after
      let n := valueOf base digits
      if n > 255 then throw "character code point value in \\x\x7b\x7d or \\o\x7b\x7d is too large"
      return Char.ofNat n
    | _ => throw fault

/-! ## Sets -/

/-- A member of a set with all characters that are no member of another one. -/
def memberOf (test : Char → Bool) (isNegated : Bool) : Member :=
  .named fun c => test c != isNegated

/-- An item between brackets: a character, or a class. -/
def readMember : Reader (Char ⊕ Member) := do
  match ← left with
  | '\\' :: c :: rest => do
    goOn rest
    if c = 'p' || c = 'P' then
      let (test, isNegated) ← readProperty
      return .inr (memberOf test (isNegated != (c = 'P')))
    match shorthand? c with
    | some (test, isNegated) => return .inr (memberOf test isNegated)
    | none => if c = 'b' then return .inl '\x08' else return .inl (← readCharacter c)
  | ['\\'] => throw "\\ at end of pattern"
  | '[' :: ':' :: rest =>
    match upTo? ":]".toList rest with
    | some (name, after) =>
      if name.all fun c => c.isAlpha || c = '^' then
        goOn after
        let (isNegated, name) := match name with
          | '^' :: name => (true, name)
          | name => (false, name)
        match classNamed? (String.ofList name) with
        | some test => return .inr (memberOf test isNegated)
        | none => throw "unknown POSIX class name"
      else
        goOn (':' :: rest)
        return .inl '['
    | none =>
      goOn (':' :: rest)
      return .inl '['
  | '[' :: mark :: rest =>
    if (mark = '.' || mark = '=') && (upTo? [mark, ']'] rest).isSome then
      throw "POSIX collating elements are not supported"
    goOn (mark :: rest)
    return .inl '['
  | c :: rest =>
    goOn rest
    return .inl c
  | [] => throw "missing terminating ] for character class"

/-- The members of a set up to its closing bracket. The number bounds how many there are. -/
def readMembers : Nat → Bool → Reader (List Member)
  | 0, _ => throw "missing terminating ] for character class"
  | n + 1, isFirst => do
    let isClosed ← if isFirst then pure false else taken ']'
    if isClosed then return []
    match ← left with
    | '\\' :: 'E' :: rest => do
      goOn rest
      readMembers n isFirst
    | '\\' :: 'Q' :: rest => do
      let (text, after) := (upTo? "\\E".toList rest).getD (rest, [])
      goOn after
      return text.map (fun c => .range c c) ++ (← readMembers n (isFirst && text = []))
    | _ => do
      let first ← readMember
      match ← left with
      | '-' :: ']' :: _ => return asMember first :: (← readMembers n false)
      | '-' :: rest => do
        goOn rest
        match first, ← readMember with
        | .inl a, .inl b => do
          if b < a then throw "range out of order in character class"
          return .range a b :: (← readMembers n false)
        | _, _ => throw "invalid range in character class"
      | _ => return asMember first :: (← readMembers n false)
where
  /-- An item as a member. -/
  asMember : Char ⊕ Member → Member
    | .inl c => .range c c
    | .inr m => m

/-- A set whose opening bracket has been read. -/
def readSet : Reader Attempt := do
  let rest ← left
  if rest.head? = some ':' then
    let name := (rest.drop 1).takeWhile fun c => c.isAlpha || c = '^'
    if name ≠ [] && ":]".toList.isPrefixOf (rest.drop (1 + name.length)) then
      throw "POSIX named classes are supported only within a class"
  let isNegated ← taken '^'
  let members ← readMembers ((← left).length + 2) true
  return .one ⟨isNegated, members, (← get).manner.ignoresCase⟩

/-! ## Groups and references -/

/-- Reads a name up to a mark. -/
def readName (mark : Char) : Reader Bytes := do
  let rest ← left
  let name := rest.takeWhile isWordChar
  if name = [] then throw "subpattern name expected"
  if name.head?.any Char.isDigit then throw "subpattern name must start with a non-digit"
  match rest.drop name.length with
  | c :: after =>
    if c ≠ mark then throw "syntax error in subpattern name (missing terminator?)"
    goOn after
    return name
  | [] => throw "syntax error in subpattern name (missing terminator?)"

/-- The number of a group with a name. -/
def numberOf (name : Bytes) : Reader Nat := do
  match (← get).names.lookup name with
  | some n => return n
  | none => throw "reference to non-existent subpattern"

/-- Notes that a group is referred to. -/
def referTo (n : Nat) : Reader Nat := do
  modify fun s => { s with highest := max s.highest n }
  return n

/-- Reads the number of a group, which may count from here, up to a mark. -/
def readNumber? (mark : Option Char) : Reader (Option Nat) := do
  let rest ← left
  let (sign, text) : Option Char × Bytes := match rest with
    | '-' :: text => (some '-', text)
    | '+' :: text => (some '+', text)
    | text => (none, text)
  let digits := text.takeWhile Char.isDigit
  let after := text.drop digits.length
  if digits = [] || (mark.isSome && after.head? ≠ mark) then return none
  goOn (if mark.isSome then after.drop 1 else after)
  let n := valueOf 10 digits
  let count := (← get).count
  match sign with
  | some '-' => do
    if n = 0 || count < n then throw "reference to non-existent subpattern"
    return some (count + 1 - n)
  | some _ => return some (count + n)
  | none => return some n

/-- Reads a reference to a group after the mark before it. -/
def readReference (mark : Char) : Reader Nat := do
  match ← readNumber? (some mark) with
  | some n => referTo n
  | none => numberOf (← readName mark)

/-- An expression for what a group has matched. -/
def sameAs (n : Nat) : Reader Attempt := do return .same n (← get).manner.ignoresCase

/-- The mark that closes what another one opens. -/
def closingMark? : Char → Option Char
  | '\x7b' => some '\x7d'
  | '<' => some '>'
  | '\'' => some '\''
  | _ => none

/-- A character that stands for itself. -/
def plain (c : Char) : Reader Attempt := do
  return .one (.single (← get).manner.ignoresCase c)

/-- Reads what follows a backslash, and tells whether it can be repeated. -/
def readEscape : Reader (Attempt × Bool) := do
  match ← left with
  | [] => throw "\\ at end of pattern"
  | c :: rest => do
    goOn rest
    if let some (test, isNegated) := shorthand? c then
      return (.one ⟨false, [memberOf test isNegated], false⟩, true)
    match c with
    | 'p' | 'P' => do
      let (test, isNegated) ← readProperty
      return (.one ⟨false, [memberOf test (isNegated != (c = 'P'))], false⟩, true)
    | 'b' => return (.assert .wordEdge, false)
    | 'B' => return (.assert .noWordEdge, false)
    | 'A' => return (.assert .textStart, false)
    | 'z' => return (.assert .textEnd, false)
    | 'Z' => return (.lastLineEnd, false)
    | 'G' => return (.origin, false)
    | 'K' => return (.restart, false)
    | 'C' | 'X' => return (.one .all, true)
    | 'R' =>
      let pair : Attempt := .join (.one (.single false '\r')) (.one (.single false '\n'))
      return (.settled (.either pair (.one ⟨false, [.named isLineMark], false⟩)), true)
    | 'N' =>
      match rest with
      | '\x7b' :: 'U' :: '+' :: _ =>
        throw "\\N\x7bU+dddd\x7d is supported only in Unicode (UTF) mode"
      | '\x7b' :: d :: _ =>
        if d.isDigit then return (.one ⟨true, [.range '\n' '\n'], false⟩, true)
        else throw "PCRE2 does not support \\F, \\L, \\l, \\N\x7bname\x7d, \\U, or \\u"
      | _ => return (.one ⟨true, [.range '\n' '\n'], false⟩, true)
    | 'g' =>
      match rest with
      | mark :: after =>
        match closingMark? mark with
        | some close => do
          goOn after
          let n ← readReference close
          return (← if mark = '\x7b' then sameAs n else pure (.call n), true)
        | none =>
          match ← readNumber? none with
          | some n => return (← sameAs (← referTo n), true)
          | none => throw (groupFault)
      | [] => throw groupFault
    | 'k' =>
      match rest.head?.bind closingMark? with
      | some close => do
        skip 1
        return (← sameAs (← numberOf (← readName close)), true)
      | none =>
        throw "\\k is not followed by a braced, angle-bracketed, or quoted name"
    | _ =>
      if c.isDigit && c ≠ '0' then
        let digits := c :: rest.takeWhile Char.isDigit
        let n := valueOf 10 digits
        if n < 10 || n ≤ (← get).count then
          skip (digits.length - 1)
          return (← sameAs (← referTo n), true)
        else if c = '8' || c = '9' then throw "reference to non-existent subpattern"
        else return (← plain (← readCharacter c), true)
      else return (← plain (← readCharacter c), true)
where
  /-- What is wrong with a reference. -/
  groupFault : String :=
    "a numbered reference must not be zero"

/-- How often something is repeated, if a repetition follows: the least number, the greatest one, and
what stands behind it. -/
def repetition? (cs : Bytes) : Except String (Option (Nat × Option Nat × Bytes)) :=
  match cs with
  | '*' :: rest => .ok (some (0, none, rest))
  | '+' :: rest => .ok (some (1, none, rest))
  | '?' :: rest => .ok (some (0, some 1, rest))
  | '\x7b' :: rest =>
    let first := rest.takeWhile Char.isDigit
    let (hasComma, after) : Bool × Bytes := match rest.drop first.length with
      | ',' :: after => (true, after)
      | after => (false, after)
    let second := if hasComma then after.takeWhile Char.isDigit else []
    match first, after.drop second.length with
    | _ :: _, '\x7d' :: after =>
      let least := valueOf 10 first
      let most : Option Nat :=
        if !hasComma then some least else if second = [] then none else some (valueOf 10 second)
      if max least (most.getD 0) > 65535 then .error "number too big in \x7b\x7d quantifier"
      else if most.any (· < least) then .error "numbers out of order in \x7b\x7d quantifier"
      else .ok (some (least, most, after))
    | _, _ => .ok none
  | _ => .ok none

/-- Reads the repetition that may follow an expression. -/
def readRepetition (r : Attempt) : Reader Attempt := do
  match ← repetition? (← left) with
  | none => return r
  | some (least, most, rest) => do
    goOn rest
    if ← taken '?' then return .repeated r least most true
    else if ← taken '+' then return .settled (.repeated r least most false)
    else return .repeated r least most false

/-- The branches of an expression. -/
def branches : Attempt → List Attempt
  | .either a b => branches a ++ branches b
  | r => [r]

/-- What has to stand before a place. -/
def before (r : Attempt) : Except String Attempt := do
  let placed ← (branches r).mapM fun branch =>
    match branch.width? with
    | some n => Except.ok (Attempt.join (.back n) branch)
    | none => .error "lookbehind assertion is not fixed length"
  match placed.reverse with
  | [] => return .empty
  | last :: others => return others.foldl (fun r branch => .either branch r) last

/-- The manner after a letter has been switched on or off. -/
def Manner.switched (m : Manner) (isOn : Bool) : Char → Option Manner
  | 'i' => some { m with ignoresCase := isOn }
  | 's' => some { m with dotTakesAll := isOn }
  | 'm' => some { m with hasLines := isOn }
  | 'x' => some { m with skipsBlanks := isOn }
  | 'n' | 'J' | 'U' => some m
  | _ => none

/-- The manner after some letters. The flag tells whether they are switched on. -/
def switches (m : Manner) : Bool → Bytes → Except String (Manner × Bytes)
  | isOn, c :: rest =>
    if c = '-' && isOn then switches m false rest
    else if c = ')' || c = ':' then .ok (m, c :: rest)
    else
      match m.switched isOn c with
      | some m => switches m isOn rest
      | none => .error "unrecognized character after (? or (?-"
  | _, [] => .error "missing closing parenthesis"

/-- What a dot stands for. -/
def dot (m : Manner) : Attempt :=
  .one (if m.dotTakesAll then .all else ⟨true, [.range '\n' '\n'], false⟩)

mutual

/-- Branches with bars between them. The number bounds how deep groups are and how long they are. With
`isShared` the groups of all branches have the same numbers. -/
def readChoice (n : Nat) (isShared : Bool) : Reader Attempt :=
  match n with
  | 0 => throw "parentheses are too deeply nested"
  | n + 1 => do
    let before := (← get).count
    let first ← readBranch n .empty
    if ← taken '|' then
      let after := (← get).count
      if isShared then modify fun s => { s with count := before }
      let second ← readChoice n isShared
      modify fun s => { s with count := max s.count after }
      return .either first second
    else return first

/-- Items one after another, which follow others. -/
def readBranch (n : Nat) (r : Attempt) : Reader Attempt :=
  match n with
  | 0 => throw "regular expression is too large"
  | n + 1 => do
    let cs ← left
    let m := (← get).manner
    let item (x : Attempt) (canRepeat : Bool) : Reader Attempt := do
      let x ← if canRepeat then readRepetition x else pure x
      readBranch n (match r with
        | .empty => x
        | r => .join r x)
    match cs with
    | [] | '|' :: _ | ')' :: _ => return r
    | c :: rest => do
      if m.skipsBlanks && isSpace c then
        goOn rest
        return ← readBranch n r
      if m.skipsBlanks && c = '#' then
        goOn (rest.dropWhile (· ≠ '\n'))
        return ← readBranch n r
      match c with
      | '\\' =>
        match rest with
        | 'Q' :: rest => do
          let (text, after) := (upTo? "\\E".toList rest).getD (rest, [])
          goOn after
          let parts ← text.mapM plain
          let whole := parts.dropLast.foldl Attempt.join r
          match parts.getLast? with
          | none => readBranch n r
          | some last => do
            let last ← readRepetition last
            readBranch n (.join whole last)
        | 'E' :: rest => do
          goOn rest
          readBranch n r
        | _ => do
          goOn rest
          let (x, canRepeat) ← readEscape
          item x canRepeat
      | '[' => do
        goOn rest
        item (← readSet) true
      | '.' => do
        goOn rest
        item (dot m) true
      | '^' => do
        goOn rest
        item (.assert (if m.hasLines then .lineStart else .textStart)) false
      | '$' => do
        goOn rest
        item (.assert (if m.hasLines then .lineEnd else .textEnd)) false
      | '(' => do
        goOn rest
        match ← readGroup n with
        | none => readBranch n r
        | some x => item x true
      | _ => do
        if (← repetition? cs).isSome then throw "quantifier does not follow a repeatable item"
        goOn rest
        item (← plain c) true

/-- A group whose parenthesis has been read, or nothing if it only says how letters are read. -/
def readGroup (n : Nat) : Reader (Option Attempt) :=
  match n with
  | 0 => throw "parentheses are too deeply nested"
  | n + 1 => do
    let manner := (← get).manner
    let inside (isShared : Bool) : Reader Attempt := do
      let r ← readChoice n isShared
      if !(← taken ')') then throw "missing closing parenthesis"
      modify fun s => { s with manner }
      return r
    let opened (name : Option Bytes) : Reader (Option Attempt) := do
      let number := (← get).count + 1
      let names := (← get).names
      let isKnown := name.any fun text => (names.lookup text).isSome
      if isKnown then
        throw "two named subpatterns have the same name (PCRE2_DUPNAMES not set)"
      modify fun s => { s with
        count := number
        names := match name with
          | some text => (text, number) :: s.names
          | none => s.names }
      return some (.group number (← inside false))
    let called (number : Nat) : Reader (Option Attempt) := do
      if !(← taken ')') then throw "(?R (recursive pattern call) must be followed by a closing parenthesis"
      return some (.call (← referTo number))
    match ← left with
    | '*' :: _ => throw "(*VERB) not recognized or malformed"
    | '?' :: rest => do
      goOn rest
      match rest with
      | ':' :: after =>
        goOn after
        return some (← inside false)
      | '|' :: after =>
        goOn after
        return some (← inside true)
      | '>' :: after =>
        goOn after
        return some (.settled (← inside false))
      | '=' :: after =>
        goOn after
        return some (.look false (← inside false))
      | '!' :: after =>
        goOn after
        return some (.look true (← inside false))
      | '<' :: '=' :: after => do
        goOn after
        return some (.look false (← before (← inside false)))
      | '<' :: '!' :: after => do
        goOn after
        return some (.look true (← before (← inside false)))
      | '#' :: after =>
        match upTo? [')'] after with
        | some (_, after) =>
          goOn after
          return none
        | none => throw "missing ) after (?# comment"
      | '<' :: after => do
        goOn after
        opened (some (← readName '>'))
      | '\'' :: after => do
        goOn after
        opened (some (← readName '\''))
      | ['P'] => throw "missing closing parenthesis"
      | 'P' :: '<' :: after => do
        goOn after
        opened (some (← readName '>'))
      | 'P' :: '=' :: after => do
        goOn after
        return some (← sameAs (← numberOf (← readName ')')))
      | 'P' :: '>' :: after => do
        goOn after
        return some (.call (← referTo (← numberOf (← readName ')'))))
      | '&' :: after => do
        goOn after
        return some (.call (← referTo (← numberOf (← readName ')'))))
      | 'R' :: after => do
        goOn after
        called 0
      | '(' :: after => do
        goOn after
        let number ← match after with
          | '<' :: after => do
            goOn after
            let number ← numberOf (← readName '>')
            if !(← taken ')') then throw "missing closing parenthesis for condition"
            pure number
          | _ => readReference ')'
        let r ← inside false
        match branches r with
        | [a] => return some (.choice number a .empty)
        | [a, b] => return some (.choice number a b)
        | _ => throw "conditional subpattern contains more than two branches"
      | c :: after => do
        let isSigned := (c = '-' || c = '+') && after.head?.any Char.isDigit
        if c.isDigit || isSigned then
          match ← readNumber? none with
          | some number => called number
          | none => throw "unrecognized character after (? or (?-"
        else
          let (m, after) ←
            if c = '^' then switches ⟨false, false, false, false⟩ true after
            else switches manner true rest
          match after with
          | ')' :: after => do
            modify fun s => { s with manner := m, rest := after }
            return none
          | _ => do
            modify fun s => { s with manner := m, rest := after.drop 1 }
            return some (← inside false)
      | [] => throw "missing closing parenthesis"
    | _ => opened none

end

/-- Reads an expression, or tells what is wrong with it. -/
def read (ignoresCase : Bool) (text : Bytes) : Except String Attempt := do
  let start : Reading := ⟨text, 0, [], 0, ⟨ignoresCase, false, false, false⟩⟩
  let (r, s) ← (readChoice (2 * text.length + 4) false).run start
  if s.rest ≠ [] then throw "unmatched closing parenthesis"
  if s.count < s.highest then throw "reference to non-existent subpattern"
  return r

end TokenConformance.Sandbox.Text.Attempt
