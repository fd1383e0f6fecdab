import TokenConformance.Sandbox.Text.CharSet

/-! # Regular expressions

* `Regex`: an expression.
* `Subject`: the text in which an expression is looked for.
* `Regex.reach`: where a match may end that starts at given positions.
* `Regex.follow`: what the groups of an expression match when the whole of a match is known.
* `Regex.track`, `Regex.pursue`: the same two for expressions that refer to their own groups.
* `Regex.findFrom?`: the first match, and of those that start there the longest one.
-/

namespace TokenConformance.Sandbox.Text

/-- What may be asked of a position in a text. -/
inductive Assertion where
  | lineStart
  | lineEnd
  | textStart
  | textEnd
  | wordStart
  | wordEnd
  | wordEdge
  | noWordEdge
deriving DecidableEq, Inhabited

/-- A regular expression. -/
inductive Regex where
  | empty
  | one (set : CharSet)
  | assert (a : Assertion)
  | group (n : Nat) (r : Regex)
  | join (first second : Regex)
  | either (first second : Regex)
  | repeated (r : Regex) (least : Nat) (most : Option Nat)
  /-- What a group has matched. -/
  | same (n : Nat) (ignoresCase : Bool)
deriving Inhabited

/-- A text in which an expression is looked for. -/
structure Subject where
  text : Array Char
  /-- Whether lines start and end inside the text. -/
  hasLines : Bool
deriving Inhabited

/-- The first position of a part of a text, and the one after its last. -/
abbrev Span := Nat × Nat

/-- What the groups of an expression have matched, the latest first. -/
abbrev Groups := List (Nat × Span)

namespace Subject

/-- The text of a part. -/
def slice (s : Subject) (span : Span) : Bytes := (s.text.extract span.1 span.2).toList

/-- Whether a character of words stands before a position. -/
def wordBefore (s : Subject) (i : Nat) : Bool :=
  0 < i && (s.text[i - 1]?).any isWordChar

/-- Whether a character of words stands after a position. -/
def wordAfter (s : Subject) (i : Nat) : Bool := (s.text[i]?).any isWordChar

/-- Whether something holds of a position. -/
def holds (s : Subject) (a : Assertion) (i : Nat) : Bool :=
  match a with
  | .lineStart => i = 0 || (s.hasLines && s.text[i - 1]? = some '\n')
  | .lineEnd => i = s.text.size || (s.hasLines && s.text[i]? = some '\n')
  | .textStart => i = 0
  | .textEnd => i = s.text.size
  | .wordStart => !s.wordBefore i && s.wordAfter i
  | .wordEnd => s.wordBefore i && !s.wordAfter i
  | .wordEdge => s.wordBefore i != s.wordAfter i
  | .noWordEdge => s.wordBefore i = s.wordAfter i

end Subject

/-! ## Positions -/

/-- The positions of two lists, each in order and without doubles. -/
def merged : List Nat → List Nat → List Nat
  | [], bs => bs
  | a :: as, bs =>
    let rec into : List Nat → List Nat
      | [] => a :: as
      | b :: bs =>
        if a < b then a :: merged as (b :: bs)
        else if a = b then a :: merged as bs
        else b :: into bs
    into bs

/-- The positions of a list that are not in another one, both in order. -/
def without : List Nat → List Nat → List Nat
  | [], _ => []
  | a :: as, bs =>
    match bs.dropWhile (· < a) with
    | b :: bs => if a = b then without as bs else a :: without as (b :: bs)
    | [] => a :: as

/-- Does a step some times. -/
def times (step : List Nat → List Nat) : Nat → List Nat → List Nat
  | 0, ps => ps
  | n + 1, ps => if ps = [] then [] else times step n (step ps)

/-- All positions that some number of steps leads to. The number bounds how many there are. -/
def closure (step : List Nat → List Nat) : Nat → List Nat → List Nat → List Nat
  | 0, _, found => found
  | n + 1, front, found =>
    match without (step front) found with
    | [] => found
    | new => closure step n new (merged found new)

namespace Regex

/-- Where characters of a set end that stand one after another from a position on. -/
def runEnds (s : Subject) (set : CharSet) : Nat → Nat → List Nat
  | 0, i => [i]
  | n + 1, i => i :: if (s.text[i]?).any set.has then runEnds s set n (i + 1) else []

/-- Where runs end that start at positions, which are in order. -/
def runsFrom (s : Subject) (set : CharSet) : Nat → List Nat → List Nat
  | 0, ps => ps
  | _, [] => []
  | n + 1, p :: ps =>
    let ends := runEnds s set (s.text.size - p) p
    ends ++ runsFrom s set n (ps.dropWhile (· ≤ ends.getLastD p))

/-- Where matches may end that start at positions. The positions are in order. -/
def reach (s : Subject) : Regex → List Nat → List Nat
  | empty, ps => ps
  | one set, ps => (ps.filter fun i => (s.text[i]?).any set.has).map (· + 1)
  | assert a, ps => ps.filter (s.holds a)
  | group _ r, ps => reach s r ps
  | join a b, ps => match reach s a ps with
    | [] => []
    | qs => reach s b qs
  | either a b, ps => merged (reach s a ps) (reach s b ps)
  | repeated r least most, ps =>
    match r, least, most with
    | one set, 0, none => runsFrom s set (s.text.size + 2) ps
    | _, _, _ =>
      let start := times (reach s r) least ps
      if start = [] then []
      else
        let rounds := match most with
          | some m => m - least
          | none => s.text.size + 1
        closure (reach s r) rounds start start
  | same _ _, _ => []

/-! ## Groups -/

/-- What groups have matched when one of them has matched a part of a text. -/
def withGroup (n : Nat) (span : Span) (gs : Groups) : Groups :=
  (n, span) :: gs.filter fun g => g.1 ≠ n

/-- How far a match has been followed. -/
structure Course where
  position : Nat
  groups : Groups
  /-- What the groups had matched when one of them matched some text for the last time. -/
  settled : Groups
deriving Inhabited

namespace Course

/-- The course on the first position of a group. -/
def enter (c : Course) (n : Nat) : Course :=
  { c with groups := withGroup n (c.position, c.position) c.groups }

/-- The course after a group that was entered at a position. A group without text that need not have
been there leaves everything as it was when some group matched text for the last time. -/
def leave (c : Course) (n : Nat) (isOptional : Bool) (entered : Nat) : Course :=
  let start := ((c.groups.lookup n).map (·.1)).getD entered
  let gs := withGroup n (start, c.position) c.groups
  if start < c.position then { c with groups := gs, settled := gs }
  else if isOptional && (c.settled.lookup n).isSome then { c with groups := c.settled }
  else { c with groups := gs }

end Course

/-- Which of the rounds of a repetition an expression stands for. -/
structure Role where
  /-- Whether the expression need not be there. -/
  isOptional : Bool
  /-- Whether it stands for another round than the one that is written down. Inside such a round
  nothing counts as optional. -/
  isCopy : Bool
deriving DecidableEq, Inhabited

/-- The role of what stands inside an expression. -/
def Role.inside (k : Role) : Role := { k with isOptional := false }

/-- The role of a round of a repetition that has some role itself. -/
def Role.round (k : Role) (isOptional isCopy : Bool) : Role :=
  ⟨isOptional && !k.isCopy, k.isCopy || isCopy⟩

/-- A way to follow an expression up to a position that passes a test. -/
abbrev Follower := Role → (Nat → Bool) → Course → Course

/-- Follows the rounds of a repetition that have to take place. `rest` says whether what is left after
a round, by the number of rounds after it, may follow a position. -/
def neededRounds (follow : Bool → (Nat → Bool) → Course → Course) (rest : Nat → Nat → Bool) :
    Bool → Nat → Course → Course
  | _, 0, c => c
  | isCopy, n + 1, c => neededRounds follow rest true n (follow isCopy (rest n) c)

/-- Follows the rounds of a repetition without end. The last one has no text if that is possible.
`leads` says whether a round may end at a position that passes a test, and `goesOn` whether more rounds
may follow a position. The number bounds how many rounds there are. -/
def endlessRounds (follow : (Nat → Bool) → Course → Course) (leads : Nat → (Nat → Bool) → Bool)
    (goesOn : Nat → Bool) : Nat → Course → Course
  | 0, c => c
  | n + 1, c =>
    let here := c.position
    let next (k : Nat) : Bool := here < k && goesOn k
    if leads here next then endlessRounds follow leads goesOn n (follow next c)
    else if leads here (· = here) then follow (· = here) c
    else c

/-- Follows a repetition with a greatest number of rounds, which are inside one another: every round
but the first comes after an optional one. `reaches` says whether that many rounds may lead from a
position to one that passes a test. -/
def boundedRounds (follow : Bool → (Nat → Bool) → Course → Course)
    (reaches : Nat → Nat → (Nat → Bool) → Bool) (leads : Nat → (Nat → Bool) → Bool) :
    Nat → (Nat → Bool) → Course → Course
  | 0, _, c => c
  | n + 1, goal, c =>
    let before (k : Nat) : Bool := leads k goal
    if reaches n c.position before then
      follow (n = 0) goal (boundedRounds follow reaches leads n before c)
    else c

/-- What the groups match when an expression matches from a position on up to one that passes a test.
There has to be such a match. Of two branches the first one counts, and a repetition has as many
rounds as it can. -/
def follow (s : Subject) : Regex → Follower
  | empty, _, _, c => c
  | one _, _, _, c => { c with position := c.position + 1 }
  | assert _, _, _, c => c
  | same _ _, _, _, c => c
  | group n r, k, goal, c =>
    (follow s r k.inside goal (c.enter n)).leave n k.isOptional c.position
  | join a b, k, goal, c =>
    follow s b k.inside goal (follow s a k.inside (fun i => (reach s b [i]).any goal) c)
  | either a b, k, goal, c =>
    let isMeant (r : Regex) : Bool := (reach s r [c.position]).any goal
    match a with
    | empty => if isMeant b then follow s b k.inside goal c else c
    | a => if isMeant a then follow s a k.inside goal c else follow s b k.inside goal c
  | repeated r least most, k, goal, c =>
    let leads (i : Nat) (goal : Nat → Bool) : Bool := (reach s r [i]).any goal
    let needed (isCopy : Bool) := follow s r (k.round false isCopy)
    match r, least, most with
    | one set, 0, none =>
      let ends := runEnds s set (s.text.size - c.position) c.position
      { c with position := (ends.reverse.find? goal).getD c.position }
    | r, least, some most =>
      let rounds := most - least
      let rest (n i : Nat) : Bool := (reach s (repeated r n (some (n + rounds))) [i]).any goal
      let reaches (n i : Nat) (goal : Nat → Bool) : Bool :=
        (reach s (repeated r 0 (some n)) [i]).any goal
      let round (isFirst : Bool) := follow s r (k.round isFirst (!isFirst || 0 < least))
      boundedRounds round reaches leads rounds goal (neededRounds needed rest false least c)
    | r, least, none =>
      let rest (n i : Nat) : Bool := (reach s (repeated r n none) [i]).any goal
      endlessRounds (follow s r (k.round true (0 < least))) leads (rest 0) (s.text.size + 1)
        (neededRounds needed rest false least c)

/-! ## References -/

/-- A position with what groups have matched before it. -/
abbrev Trail := Nat × Groups

/-- Trails without those that come twice. -/
def fresh (found : List Trail) (ts : List Trail) : List Trail :=
  ts.foldl (fun kept t => if found.contains t || kept.contains t then kept else kept ++ [t]) []

/-- All trails that some number of steps leads to. -/
def trailClosure (step : Trail → List Trail) : Nat → List Trail → List Trail → List Trail
  | 0, _, found => found
  | n + 1, front, found =>
    match fresh found (front.flatMap step) with
    | [] => found
    | new => trailClosure step n new (found ++ new)

/-- Does a step some times. -/
def trailTimes (step : Trail → List Trail) : Nat → List Trail → List Trail
  | 0, ts => ts
  | n + 1, ts => if ts = [] then [] else trailTimes step n (ts.flatMap step)

/-- Where matches may end, when an expression refers to its own groups. -/
def track (s : Subject) : Regex → Trail → List Trail
  | empty, t => [t]
  | one set, (i, gs) => if (s.text[i]?).any set.has then [(i + 1, gs)] else []
  | assert a, (i, gs) => if s.holds a i then [(i, gs)] else []
  | group n r, (i, gs) =>
    (track s r (i, gs)).map fun (j, gs) => (j, withGroup n (i, j) gs)
  | join a b, t => (track s a t).flatMap (track s b)
  | either a b, t => track s a t ++ track s b t
  | repeated r least most, t =>
    let start := trailTimes (track s r) least [t]
    let rounds := match most with
      | some m => m - least
      | none => s.text.size + 1
    trailClosure (track s r) rounds start start
  | same n ignoresCase, (i, gs) =>
    match gs.lookup n with
    | none => []
    | some span =>
      let text := s.slice span
      let here := s.slice (i, i + text.length)
      let folded (t : Bytes) : Bytes := if ignoresCase then t.map Char.toLower else t
      if folded here = folded text then [(i + text.length, gs)] else []

/-- Follows the rounds of a repetition, as many as there can be. Each may be followed by what is left.
The number bounds how many there are. -/
def pursueRounds (step : (Trail → Option Trail) → Trail → Option Trail)
    (rest : Trail → Option Trail) : Nat → Nat → Option Nat → Trail → Option Trail
  | 0, _, _, _ => none
  | n + 1, least, most, t =>
    let next := pursueRounds step rest n (least - 1) (most.map (· - 1))
    if 0 < least then step next t
    else if most = some 0 then rest t
    else
      match step (fun u => if t.1 < u.1 then next u else none) t with
      | some found => some found
      | none => rest t

/-- The first way in which an expression that refers to its own groups matches from a position on and
is followed by what is left. Of two branches the first one is tried first, and a repetition has as many
rounds as it can. -/
def pursue (s : Subject) : Regex → (Trail → Option Trail) → Trail → Option Trail
  | group n r, rest, (i, gs) =>
    pursue s r (fun (j, gs) => rest (j, withGroup n (i, j) gs)) (i, gs)
  | join a b, rest, t => pursue s a (pursue s b rest) t
  | either a b, rest, t =>
    match pursue s a rest t with
    | some found => some found
    | none => pursue s b rest t
  | repeated r least most, rest, t =>
    pursueRounds (pursue s r) rest (least + s.text.size + 2) least most t
  | r, rest, t => (track s r t).findSome? rest

/-- Whether an expression refers to its own groups. -/
def refers : Regex → Bool
  | same _ _ => true
  | group _ r => r.refers
  | repeated r _ _ => r.refers
  | join a b => a.refers || b.refers
  | either a b => a.refers || b.refers
  | _ => false

/-- Whether an expression has groups. -/
def hasGroups : Regex → Bool
  | group _ _ => true
  | repeated r _ _ => r.hasGroups
  | join a b => a.hasGroups || b.hasGroups
  | either a b => a.hasGroups || b.hasGroups
  | _ => false

/-! ## Matches -/

/-- A match with what its groups match. -/
structure Match where
  start : Nat
  finish : Nat
  groups : Groups
deriving DecidableEq, Inhabited

/-- The part of a text that is matched. -/
def Match.span (m : Match) : Span := (m.start, m.finish)

/-- Where matches may end that start at a position, in order. -/
def ends (r : Regex) (s : Subject) (i : Nat) : List Nat :=
  if r.refers then
    (track s r (i, [])).foldl (fun found t => merged found [t.1]) []
  else reach s r [i]

/-- The match of a part of a text that is known to be one. -/
def matchAt (r : Regex) (s : Subject) (span : Span) : Match :=
  let groups :=
    if r.refers then
      ((pursue s r (fun t => if t.1 = span.2 then some t else none) (span.1, [])).map (·.2)).getD []
    else if r.hasGroups then (follow s r ⟨false, false⟩ (· = span.2) ⟨span.1, [], []⟩).groups
    else []
  ⟨span.1, span.2, groups⟩

/-- The first match from a position on that passes a test, and of those that start there the longest
one. The number bounds how many positions there are. -/
def findSpan? (r : Regex) (s : Subject) (test : Span → Bool) : Nat → Nat → Option Span
  | 0, _ => none
  | n + 1, i =>
    match (r.ends s i).reverse.find? fun j => test (i, j) with
    | some j => some (i, j)
    | none => findSpan? r s test n (i + 1)

/-- The first match from a position on. -/
def findFrom? (r : Regex) (s : Subject) (i : Nat) : Option Match :=
  (findSpan? r s (fun _ => true) (s.text.size + 1 - i) i).map (r.matchAt s)

/-- The first match in a text. -/
def find? (r : Regex) (text : Bytes) : Option Match := r.findFrom? ⟨text.toArray, false⟩ 0

/-- Whether an expression is found in a text. -/
def isIn (r : Regex) (text : Bytes) : Bool :=
  (findSpan? r ⟨text.toArray, false⟩ (fun _ => true) (text.length + 1) 0).isSome

end Regex

end TokenConformance.Sandbox.Text
