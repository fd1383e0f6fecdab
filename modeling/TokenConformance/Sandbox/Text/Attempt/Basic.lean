import TokenConformance.Sandbox.Text.Regex.Basic

/-! # Expressions whose ways of matching are tried in turn

Unlike a `Regex`, of which the longest match counts, an `Attempt` takes the first way of matching
that works. So it can say that a repetition is to be short, or what has to stand around a match.

* `Attempt`: an expression.
* `Trail`: how far a match has come.
* `Attempt.search`: the first way of doing one thing after another.
* `Attempt.findFrom?`: the first match in a text.
* `Attempt.width?`: how long the matches of an expression are, if that is known.
-/

namespace TokenConformance.Sandbox.Text

/-- An expression whose ways of matching are tried in turn. -/
inductive Attempt where
  | empty
  | one (set : CharSet)
  | assert (a : Assertion)
  /-- The end of a text, or the place before a last end of line. -/
  | lastLineEnd
  /-- Where the search has started. -/
  | origin
  | group (n : Nat) (r : Attempt)
  | join (first second : Attempt)
  /-- The first expression, or the second one if the first one leads nowhere. -/
  | either (first second : Attempt)
  /-- An expression some times, as often as possible unless it is to be short. -/
  | repeated (r : Attempt) (least : Nat) (most : Option Nat) (isShort : Bool)
  /-- An expression of which only the first way of matching counts. -/
  | settled (r : Attempt)
  /-- What has to stand at a place, or must not stand there. -/
  | look (isNegated : Bool) (r : Attempt)
  /-- The place some characters before. -/
  | back (n : Nat)
  /-- What a group has matched. -/
  | same (n : Nat) (ignoresCase : Bool)
  /-- One expression if a group has matched, and another one if not. -/
  | choice (n : Nat) (whenSet whenUnset : Attempt)
  /-- The expression of a group once more. The group zero is the whole. -/
  | call (n : Nat)
  /-- The match starts here. -/
  | restart
deriving Inhabited

/-- How far a match has come. -/
structure Trail where
  start : Nat
  position : Nat
  groups : Groups
deriving Inhabited

namespace Attempt

/-- What is left to do in a match. -/
inductive Task where
  | take (r : Attempt)
  | close (n start : Nat)
  /-- Another round of a repetition whose last one has started at a place. -/
  | again (start : Nat) (r : Attempt) (most : Option Nat) (isShort : Bool)
  /-- The groups are what they have been before. -/
  | restore (groups : Groups)
deriving Inhabited

/-- The expression of a group inside an expression. -/
def groupIn? (n : Nat) : Attempt → Option Attempt
  | group m r => if m = n then some (group m r) else groupIn? n r
  | join a b | either a b | choice _ a b => (groupIn? n a).or (groupIn? n b)
  | repeated r _ _ _ | settled r | look _ r => groupIn? n r
  | _ => none

/-- Whether two characters are the same, where case may not count. -/
def isSame (ignoresCase : Bool) (a b : Char) : Bool :=
  a = b || (ignoresCase && a.toLower = b.toLower)

/-- Whether something holds of a position. -/
def holds (s : Subject) (origin : Nat) (i : Nat) : Attempt → Bool
  | assert a => s.holds a i
  | lastLineEnd => i = s.text.size || (i + 1 = s.text.size && s.text[i]? = some '\n')
  | .origin => i = origin
  | _ => true

/-- The first way of doing one thing after another. `whole` is the expression that calls are about.
The number bounds how many steps there are. -/
def search (s : Subject) (whole : Attempt) (origin : Nat) :
    Nat → List Task → Trail → Option Trail
  | 0, _, _ => none
  | _, [], t => some t
  | n + 1, task :: rest, t =>
    let next (tasks : List Task) (t : Trail) : Option Trail := search s whole origin n tasks t
    match task with
    | .close g start => next rest { t with groups := (g, start, t.position) :: t.groups }
    | .restore groups => next rest { t with groups }
    | .again start r most isShort =>
      if t.position = start then next rest t
      else next (.take (repeated r 0 most isShort) :: rest) t
    | .take r =>
      match r with
      | empty => next rest t
      | one set =>
        if (s.text[t.position]?).any set.has then next rest { t with position := t.position + 1 }
        else none
      | assert _ | lastLineEnd | Attempt.origin =>
        if holds s origin t.position r then next rest t else none
      | group g r => next (.take r :: .close g t.position :: rest) t
      | join a b => next (.take a :: .take b :: rest) t
      | either a b => (next (.take a :: rest) t).or (next (.take b :: rest) t)
      | repeated r (least + 1) most isShort =>
        next (.take r :: .take (repeated r least (most.map (· - 1)) isShort) :: rest) t
      | repeated r 0 most isShort =>
        if most = some 0 then next rest t
        else
          let more (_ : Unit) : Option Trail :=
            next (.take r :: .again t.position r (most.map (· - 1)) isShort :: rest) t
          if isShort then
            match next rest t with
            | some found => some found
            | none => more ()
          else
            match more () with
            | some found => some found
            | none => next rest t
      | settled r => (next [.take r] t).bind (next rest ·)
      | look isNegated r =>
        match next [.take r] t, isNegated with
        | some found, false => next rest { found with position := t.position }
        | none, true => next rest t
        | _, _ => none
      | back k => if k ≤ t.position then next rest { t with position := t.position - k } else none
      | same g ignoresCase =>
        match t.groups.lookup g with
        | none => none
        | some (start, finish) =>
          let part := s.slice (start, finish)
          let here := s.slice (t.position, t.position + part.length)
          let fits := here.length = part.length &&
            (part.zip here).all fun (a, b) => isSame ignoresCase a b
          if fits then next rest { t with position := t.position + part.length } else none
      | choice g a b => next (.take (if (t.groups.lookup g).isSome then a else b) :: rest) t
      | call g =>
        let called := if g = 0 then whole else (groupIn? g whole).getD empty
        next (.take called :: .restore t.groups :: rest) t
      | restart => next rest { t with start := t.position }

/-- A bound for the steps of a match, for every character that it takes. -/
def cost : Attempt → Nat
  | group _ r | settled r | look _ r => r.cost + 3
  | join a b | either a b | choice _ a b => a.cost + b.cost + 3
  | repeated r least _ _ => (r.cost + 3) * (least + 1) + 3
  | call _ => 1000
  | _ => 3

/-- The match that starts at a position. -/
def matchAt? (r : Attempt) (s : Subject) (origin i : Nat) : Option Span :=
  let steps := (s.text.size + 4) * (r.cost + 4)
  (search s r origin steps [.take r] ⟨i, i, []⟩).map fun t => (t.start, t.position)

/-- The first match from a position on. The number bounds how many positions there are. -/
def findFrom? (r : Attempt) (s : Subject) (origin : Nat) : Nat → Nat → Option Span
  | 0, _ => none
  | n + 1, i =>
    match r.matchAt? s origin i with
    | some span => some span
    | none => findFrom? r s origin n (i + 1)

/-- How long the matches of an expression are, if all have the same length. -/
def width? : Attempt → Option Nat
  | empty | assert _ | lastLineEnd | origin | look _ _ | restart => some 0
  | one _ => some 1
  | group _ r | settled r => r.width?
  | join a b => do return (← a.width?) + (← b.width?)
  | either a b | choice _ a b => do
    let n ← a.width?
    if (← b.width?) = n then some n else none
  | repeated r least most _ => if most = some least then r.width?.map (· * least) else none
  | back _ | same _ _ | call _ => none

end Attempt

end TokenConformance.Sandbox.Text
