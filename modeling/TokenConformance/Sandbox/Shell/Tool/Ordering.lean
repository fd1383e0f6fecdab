import TokenConformance.Sandbox.Shell.Tool.Amounts

/-! # Programs that put things into an order

* `Precedence`: things some of which have to come before others.
* `Precedence.ordered`: the things in an order that fits, and the loops that stand in its way.
* `tsort`: orders what it reads.
* `shuf`: picks some of what it reads.
-/

namespace TokenConformance.Sandbox.Shell.Tool

open Sandbox.Text (Bytes)

/-! ## Orders that fit -/

/-- A thing that has to come before others. -/
structure Precedent where
  name : Bytes
  /-- How many things have to come before it still. -/
  count : Nat
  /-- What comes after it, the latest first. -/
  followers : List Nat
  isDone : Bool
deriving DecidableEq, Inhabited

/-- Things in the order of their names. -/
abbrev Precedence := Array Precedent

namespace Precedence

/-- The words of a text. -/
def wordsOf (text : Bytes) : List Bytes :=
  let isBlank (c : Char) : Bool := c = ' ' || c = '\t' || c = '\n'
  let (words, last) := text.foldl
    (fun (s : List Bytes × Bytes) c =>
      if !isBlank c then (s.1, c :: s.2)
      else if s.2 = [] then s
      else (s.2.reverse :: s.1, [])) ([], [])
  (if last = [] then words else last.reverse :: words).reverse

/-- Words in pairs, without one that is left over. -/
def pairsOf : List Bytes → List (Bytes × Bytes)
  | a :: b :: rest => (a, b) :: pairsOf rest
  | _ => []

/-- The things that words name, of which each pair says what comes before what. -/
def ofWords (words : List Bytes) : Precedence :=
  let names := (words.mergeSort Bytes.isAtMost).eraseReps.toArray
  let start : Precedence := names.map fun name => ⟨name, 0, [], false⟩
  let number (name : Bytes) : Nat := (names.findIdx? (· = name)).getD 0
  (pairsOf words).foldl
    (fun p (a, b) =>
      if a = b then p
      else
        let (i, j) := (number a, number b)
        let p := p.modify j fun x => { x with count := x.count + 1 }
        p.modify i fun x => { x with followers := j :: x.followers }) start

/-- Takes things to which nothing has to come first, in the order of a queue. The number bounds how
many there are. -/
def takeFree : Nat → List Nat → List Bytes → Precedence → List Bytes × Precedence
  | 0, _, done, p => (done, p)
  | _, [], done, p => (done, p)
  | n + 1, i :: queue, done, p =>
    let x := p.getD i default
    let p := p.modify i fun x => { x with isDone := true }
    let (p, freed) := x.followers.foldl
      (fun (s : Precedence × List Nat) j =>
        let left := (s.1.getD j default).count - 1
        (s.1.modify j fun y => { y with count := left }, if left = 0 then j :: s.2 else s.2))
      (p, [])
    takeFree n (queue ++ freed.reverse) (x.name :: done) p

/-- What is known of a loop while it is looked for: its latest thing, and what comes after each of its
things. -/
structure Search where
  latest : Option Nat
  links : List (Nat × Nat)
  /-- The things of a loop that has been found, and the two between which it is broken. -/
  found : Option (List Nat × Nat × Nat)
deriving Inhabited

/-- The things from one to another along links. The number bounds how many there are. -/
def chain (links : List (Nat × Nat)) (last : Nat) : Nat → Nat → List Nat
  | 0, i => [i]
  | n + 1, i =>
    if i = last then [i]
    else i :: ((links.lookup i).map (chain links last n)).getD []

/-- Looks at a thing that may belong to a loop. -/
def lookAt (p : Precedence) (s : Search) (i : Nat) : Search :=
  let x := p.getD i default
  if s.found.isSome || x.count = 0 then s
  else
    match s.latest with
    | none => { s with latest := some i }
    | some j =>
      if j ∉ x.followers then s
      else if (s.links.lookup i).isSome then
        { s with found := some (chain s.links i p.size j, i, j) }
      else { s with latest := some i, links := (i, j) :: s.links }

/-- Looks for a loop, again and again through all things. The number bounds how often. -/
def findLoop? (p : Precedence) : Nat → Search → Option (List Nat × Nat × Nat)
  | 0, _ => none
  | n + 1, s =>
    let s := (List.range p.size).foldl (lookAt p) s
    match s.found with
    | some found => some found
    | none => findLoop? p n s

/-- The things in an order that fits as well as it can: parts of it, each with the loop that stands in
the way after it. The number bounds how many there are. -/
def ordered : Nat → Precedence → List (List Bytes × List Bytes)
  | 0, _ => []
  | n + 1, p =>
    let free := (List.range p.size).filter fun i =>
      let x := p.getD i default
      x.count = 0 && !x.isDone
    let (done, p) := takeFree (p.size + 1) free [] p
    if p.all (·.isDone) then [(done.reverse, [])]
    else
      match findLoop? p (p.size * p.size + 2) ⟨none, [], none⟩ with
      | none => [(done.reverse, [])]
      | some (loop, i, j) =>
        let p := p.modify i fun x => { x with followers := x.followers.erase j }
        let p := p.modify j fun y => { y with count := y.count - 1 }
        (done.reverse, loop.map fun k => (p.getD k default).name) :: ordered n p

end Precedence

/-- Orders what it reads. -/
def tsort : Tool := fun c => c.withOptions [] fun g => c.withAtMost 1 g.operands do
  let path := g.operands.headD ['-']
  match ← Call.contentOf path with
  | .error e =>
    c.fail 1 (Call.openOrRead Call.plainComplaint
      (fun p e => named p ++ ": read error: ".toList ++ describe e) path e)
  | .ok content =>
    let words := Precedence.wordsOf content
    if words.length % 2 = 1 then
      return ← c.fail 1 (named path ++ ": input contains an odd number of tokens".toList)
    let parts := (Precedence.ofWords words).ordered (words.length + 1)
    for (done, loop) in parts do
      printLines done
      if loop ≠ [] then
        c.say (named path ++ ": input contains a loop:".toList)
        for name in loop do
          c.say name
    return Call.statusOf (parts.all fun p => p.2 = [])

/-! ## Choices -/

/-- The whole numbers of a range such as `1-9`. -/
def rangeOf? (text : Bytes) : Option (List Bytes) :=
  let low := text.takeWhile (· ≠ '-')
  match digitsValue? low, digitsValue? (text.drop (low.length + 1)) with
  | some a, some b =>
    if a ≤ b + 1 then some ((List.range (b + 1 - a)).map fun i => Bytes.ofInt (a + i : Nat))
    else none
  | _, _ => none

/-- How often a line is repeated if nobody says how often. -/
def mostRepeated : Nat := 4194304

/-- Picks lines of what it reads, of its arguments, or of a range. As every order is as good as any other
one, the order is kept. -/
def shuf : Tool := fun c =>
  c.withOptions
    [flag 'e' "echo", valued 'i' "input-range", valued 'n' "head-count", valued 'o' "output",
      longValued "random-source", flag 'r' "repeat", flag 'z' "zero-terminated"] fun g => do
    let mark : Char := if g.has "z" then '\x00' else '\n'
    let range := (g.value? "i").map fun text => (text, rangeOf? text)
    if let some (text, none) := range then
      return ← c.fail 1 ("invalid input range: ".toList ++ inSingleQuotes text)
    for text in g.values "n" do
      if (digitsValue? text).isNone then
        return ← c.fail 1 ("invalid line count: ".toList ++ inSingleQuotes text)
    if range.isSome && g.has "e" then
      return ← c.misused 1 "cannot combine -e and -i options".toList
    let most := ((g.values "n").filterMap digitsValue?).min?
    let refuse (operand : Bytes) : Action Nat :=
      c.misused 1 ("extra operand ".toList ++ inSingleQuotes operand)
    let lines : List Bytes ← match range, g.has "e", g.operands with
      | some (_, some numbers), _, [] => pure numbers
      | some _, _, operand :: _ => return ← refuse operand
      | _, true, operands => pure operands
      | _, false, _ :: operand :: _ => return ← refuse operand
      | _, false, operands =>
        let path := operands.headD ['-']
        match ← Call.contentOf path with
        | .ok content => pure ((endedBy mark content).map (withoutMark mark))
        | .error e =>
          return ← c.fail 1 (Call.openOrRead Call.plainComplaint
            (fun _ e => "read error: ".toList ++ describe e) path e)
    let chosen : List Bytes ←
      if !g.has "r" then pure (lines.take (most.getD lines.length))
      else if most = some 0 then pure []
      else
        match lines with
        | [] => return ← c.fail 1 "no lines to repeat".toList
        | first :: _ => pure (List.replicate (most.getD mostRepeated) first)
    let text := chosen.flatMap fun line => line ++ [mark]
    match g.value? "o" with
    | none =>
      print text
      return 0
    | some path =>
      match ← Call.putPath .writing path text with
      | .ok () => return 0
      | .error e => c.fail 1 (Call.plainComplaint path e)

end TokenConformance.Sandbox.Shell.Tool
