import TokenConformance.Sandbox.Text.CharSet

/-! # Patterns

* `Step`: what a pattern consists of; `Pattern.ofMarked` reads a pattern in which some characters
  are quoted.
* `Pattern.remainders`: what may be left of a text after a pattern.
* `Pattern.covers`, `Pattern.fits`: whether a pattern covers all of a text.
* `Pattern.trim`: a text without the part at its start or end that a pattern covers.
-/

namespace TokenConformance.Sandbox.Shell

open Sandbox.Text (Bytes Member classTest?)

/-- A step of a pattern. -/
inductive Step where
  | char (c : Char)
  | any
  /-- Any number of characters. -/
  | many
  | set (isNegated : Bool) (members : List Member)

/-- A pattern. -/
abbrev Pattern := List Step

/-- A text in which every character is marked as quoted or not. -/
abbrev Marked := List (Char × Bool)

/-- The class at the start of a text, after the bracket that opens it, and what follows it. -/
def namedMember? (cs : Marked) : Option (Member × Marked) :=
  match cs with
  | (':', _) :: rest =>
    let name := rest.takeWhile fun c => c.1.isAlpha
    match rest.dropWhile fun c => c.1.isAlpha with
    | (':', _) :: (']', _) :: after =>
      (classTest? (String.ofList (name.map (·.1)))).map fun test => (.named test, after)
    | _ => none
  | _ => none

/-- The members of a set up to the bracket that closes it, and what follows that. -/
def members : Nat → Bool → Marked → Option (List Member × Marked)
  | 0, _, _ => none
  | _, _, [] => none
  | n + 1, isFirst, (c, quoted) :: rest =>
    if c = ']' && !quoted && !isFirst then some ([], rest)
    else
      let (member, rest) :=
        match if c = '[' && !quoted then namedMember? rest else none with
        | some found => found
        | none =>
          match rest with
          | ('-', false) :: (last, lastQuoted) :: after =>
            if last = ']' && !lastQuoted then (.range c c, rest) else (.range c last, after)
          | _ => (.range c c, rest)
      (members n false rest).map fun (others, rest) => (member :: others, rest)

namespace Pattern

/-- The set at the start of a text, after its opening bracket, and what follows it. -/
def set? (cs : Marked) : Option (Step × Marked) :=
  let (isNegated, start) :=
    match cs with
    | ('!', false) :: rest => (true, rest)
    | ('^', false) :: rest => (true, rest)
    | _ => (false, cs)
  (members (start.length + 1) true start).map fun (ms, rest) => (.set isNegated ms, rest)

/-- The steps of a pattern. The number bounds how many there are. -/
def steps : Nat → Marked → Pattern
  | 0, _ => []
  | _, [] => []
  | n + 1, (c, true) :: rest => .char c :: steps n rest
  | n + 1, ('*', false) :: rest => .many :: steps n rest
  | n + 1, ('?', false) :: rest => .any :: steps n rest
  | n + 1, ('\\', false) :: (c, _) :: rest => .char c :: steps n rest
  | n + 1, ('[', false) :: rest =>
    match set? rest with
    | some (step, rest) => step :: steps n rest
    | none => .char '[' :: steps n rest
  | n + 1, (c, false) :: rest => .char c :: steps n rest

/-- Reads a pattern in which some characters are quoted. -/
def ofMarked (cs : Marked) : Pattern := steps cs.length cs

/-- Whether a text has a meaning as a pattern that it does not have as a text. -/
def isActive (cs : Marked) : Bool := cs.any fun (c, quoted) => !quoted && c ∈ ['*', '?', '[']

/-! ## Matching -/

/-- What is left of a text after a step that stands for one character. -/
def afterOne (test : Char → Bool) : Bytes → Option Bytes
  | c :: rest => if test c then some rest else none
  | [] => none

/-- What is left of a text after any number of characters. -/
def ends : Bytes → List Bytes
  | [] => [[]]
  | c :: rest => (c :: rest) :: ends rest

/-- What may be left after a step. The longest text comes first, and the others are ends of it. -/
def Step.remainders (s : Step) (texts : List Bytes) : List Bytes :=
  match s with
  | .char c => texts.filterMap (afterOne (· = c))
  | .any => texts.filterMap (afterOne fun _ => true)
  | .many => (texts.head?.map ends).getD []
  | .set isNegated ms =>
    texts.filterMap (afterOne fun c => (ms.any (·.holds c)) != isNegated)

/-- What may be left of a text after a pattern, the longest first. -/
def remainders (p : Pattern) (text : Bytes) : List Bytes :=
  p.foldl (fun texts s => Step.remainders s texts) [text]

/-- Whether a pattern covers all of a text. -/
def covers (p : Pattern) (text : Bytes) : Bool := (remainders p text).contains []

/-- Whether a pattern without quotes covers all of a text. -/
def fits (pattern text : Bytes) : Bool := covers (ofMarked (pattern.map (·, false))) text

/-- A text without what a pattern covers at its start or its end: as little as possible, or as much
as possible. -/
def trim (p : Pattern) (fromEnd longest : Bool) (text : Bytes) : Bytes :=
  if fromEnd then
    let cuts := (List.range (text.length + 1)).filter fun n => covers p (text.drop n)
    match if longest then cuts.head? else cuts.getLast? with
    | some n => text.take n
    | none => text
  else
    let rests := remainders p text
    (if longest then rests.getLast? else rests.head?).getD text

end Pattern

end TokenConformance.Sandbox.Shell
