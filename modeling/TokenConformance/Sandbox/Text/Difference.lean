/-! # Where two sequences differ

* `Change`: elements that are taken away at a place, and those that come there instead.
* `Marks`: which elements of each side are changed.
* `Window.middle`: the place where a shortest path between two sides is cut in two.
* `Weight`, `decided`: which elements say so little that they are left out at first.
* `marked`: the marks of two sequences; `settled` moves changed runs over equal elements.
* `changes`: what turns the first sequence into the second one.
-/

namespace TokenConformance.Sandbox.Text.Difference

/-- Elements that are taken away at a place, and those that come there instead. -/
structure Change where
  /-- The place in the first sequence, counted from zero. -/
  first : Nat
  /-- The place in the second sequence. -/
  second : Nat
  deleted : Nat
  inserted : Nat
deriving DecidableEq, Inhabited, Repr

/-- Which elements are changed. -/
structure Marks where
  first : Array Bool
  second : Array Bool

/-! ## Shortest paths -/

/-- A part of two sequences, both from a place up to another one. -/
structure Window where
  xs : Array Nat
  ys : Array Nat
  xStart : Int
  xEnd : Int
  yStart : Int
  yEnd : Int

namespace Window

/-- Whether the elements at two places are equal. -/
def isSame (w : Window) (x y : Int) : Bool := w.xs.getD x.toNat 0 = w.ys.getD y.toNat 0

/-- How far equal elements lead forward. The number bounds how many there are. -/
def ahead (w : Window) : Nat → Int → Int → Int
  | 0, x, _ => x
  | n + 1, x, y =>
    if x < w.xEnd && y < w.yEnd && w.isSame x y then ahead w n (x + 1) (y + 1) else x

/-- How far equal elements lead back. The number bounds how many there are. -/
def back (w : Window) : Nat → Int → Int → Int
  | 0, x, _ => x
  | n + 1, x, y =>
    if w.xStart < x && w.yStart < y && w.isSame (x - 1) (y - 1) then back w n (x - 1) (y - 1)
    else x

/-- How many elements there are on both sides. -/
def size (w : Window) : Nat := (w.xEnd - w.xStart + (w.yEnd - w.yStart)).toNat

/-- The window without the elements that are equal at its beginning and at its end. -/
def trimmed (w : Window) : Window :=
  let x := w.ahead w.size w.xStart w.yStart
  let w := { w with xStart := x, yStart := w.yStart + (x - w.xStart) }
  let x := w.back w.size w.xEnd w.yEnd
  { w with xEnd := x, yEnd := w.yEnd + (x - w.xEnd) }

end Window

/-- How far paths lead on diagonals. -/
structure Frontier where
  reached : Array Int
  /-- The number of the diagonal that comes first. -/
  lowest : Int

namespace Frontier

/-- How far a path leads on a diagonal. -/
def get (f : Frontier) (d : Int) : Int := f.reached.getD (d - f.lowest).toNat 0

/-- The frontier after a path leads on. -/
def set (f : Frontier) (d x : Int) : Frontier :=
  { f with reached := f.reached.setIfInBounds (d - f.lowest).toNat x }

end Frontier

/-- The diagonals that paths have reached from one side. -/
structure Search where
  frontier : Frontier
  low : Int
  high : Int

namespace Search

/-- The search with one more diagonal on each side, as long as there is one. What lies beyond is as
good as not reached. -/
def widened (s : Search) (least most unreached : Int) : Search :=
  let (frontier, low) := if least < s.low then (s.frontier.set (s.low - 2) unreached, s.low - 1)
    else (s.frontier, s.low + 1)
  let (frontier, high) := if s.high < most then (frontier.set (s.high + 2) unreached, s.high + 1)
    else (frontier, s.high - 1)
  ⟨frontier, low, high⟩

/-- Whether the search has come to a diagonal. -/
def covers (s : Search) (d : Int) : Bool := s.low ≤ d && d ≤ s.high

end Search

/-- Leads all paths one step forward, from the highest diagonal on. The other result is the place where
one of them meets the paths from the end. -/
def stepForward (w : Window) (other : Option Search) (low : Int) : Nat → Int → Frontier →
    Except (Int × Int) Frontier
  | 0, _, f => .ok f
  | n + 1, d, f =>
    if d < low then .ok f
    else
      let below := f.get (d - 1)
      let above := f.get (d + 1)
      let start := if below < above then above else below + 1
      let x := w.ahead w.size start (start - d)
      let meets := other.any fun s => s.covers d && s.frontier.get d ≤ x
      if meets then .error (x, x - d) else stepForward w other low n (d - 2) (f.set d x)

/-- Leads all paths one step back, from the highest diagonal on. The other result is the place where
one of them meets the paths from the beginning. -/
def stepBack (w : Window) (other : Option Search) (low : Int) : Nat → Int → Frontier →
    Except (Int × Int) Frontier
  | 0, _, f => .ok f
  | n + 1, d, f =>
    if d < low then .ok f
    else
      let below := f.get (d - 1)
      let above := f.get (d + 1)
      let start := if below < above then below else above - 1
      let x := w.back w.size start (start - d)
      let meets := other.any fun s => s.covers d && x ≤ s.frontier.get d
      if meets then .error (x, x - d) else stepBack w other low n (d - 2) (f.set d x)

/-- Leads paths from both sides until they meet. The number bounds how many steps there are. -/
def meeting (w : Window) (isOdd : Bool) : Nat → Search → Search → Int × Int
  | 0, _, _ => (w.xStart, w.yStart)
  | n + 1, forward, backward =>
    let least := w.xStart - w.yEnd
    let most := w.xEnd - w.yStart
    let steps := w.size + 2
    let forward := forward.widened least most (-1)
    let others := if isOdd then some backward else none
    match stepForward w others forward.low steps forward.high forward.frontier with
    | .error place => place
    | .ok f =>
      let forward := { forward with frontier := f }
      let backward := backward.widened least most (w.xEnd + w.yEnd + 2)
      let others := if isOdd then none else some forward
      match stepBack w others backward.low steps backward.high backward.frontier with
      | .error place => place
      | .ok f => meeting w isOdd n forward { backward with frontier := f }

/-- The place where a shortest path is cut in two. -/
def Window.middle (w : Window) : Int × Int :=
  let first := w.xStart - w.yStart
  let last := w.xEnd - w.yEnd
  let frontier : Frontier :=
    ⟨Array.replicate (w.size + 5) 0, w.xStart - w.yEnd - 2⟩
  meeting w ((first - last) % 2 ≠ 0) (w.size + 1) ⟨frontier.set first w.xStart, first, first⟩
    ⟨frontier.set last w.xEnd, last, last⟩

/-- Marks from a place up to another one. -/
def markedRange (marks : Array Bool) (first last : Int) : Array Bool :=
  (List.range (last - first).toNat).foldl
    (fun ms i => ms.setIfInBounds (first.toNat + i) true) marks

/-- Marks what a shortest path leaves out or takes in. The number bounds how often a window is cut in
two. -/
def markedIn : Nat → Window → Marks → Marks
  | 0, _, m => m
  | n + 1, w, m =>
    let w := w.trimmed
    if w.xStart = w.xEnd then { m with second := markedRange m.second w.yStart w.yEnd }
    else if w.yStart = w.yEnd then { m with first := markedRange m.first w.xStart w.xEnd }
    else
      let (x, y) := w.middle
      markedIn n { w with xStart := x, yStart := y }
        (markedIn n { w with xEnd := x, yEnd := y } m)

/-! ## Elements that say little -/

/-- How an element is treated before shortest paths are looked for. -/
inductive Weight where
  | kept
  | dropped
  /-- Dropped if it is in the middle of others that are. -/
  | doubtful
deriving DecidableEq, Inhabited

/-- How often an element may be on the other side before it says little. The number of elements on this
side is given. -/
def oftenFrom : Nat → Nat → Nat → Nat
  | 0, _, many => many
  | n + 1, left, many => if 0 < left / 4 then oftenFrom n (left / 4) (2 * many) else many

/-- The weights of elements, by how often the other side has them. -/
def weights (own other : Array Nat) : Array Weight :=
  let many := oftenFrom own.size (own.size / 64) 5
  let most := (own ++ other).foldl max 0
  let counts := other.foldl (fun cs x => cs.modify x (· + 1)) (Array.replicate (most + 1) 0)
  own.map fun x =>
    let n := counts.getD x 0
    if n = 0 then .dropped else if many < n then .doubtful else .kept

/-- The end of the elements from a place on that are not kept. -/
def runEnd (ws : Array Weight) : Nat → Nat → Nat
  | 0, i => i
  | n + 1, i => if i < ws.size && ws.getD i .kept ≠ .kept then runEnd ws n (i + 1) else i

/-- The end of a run without the doubtful elements at its end. -/
def firmEnd (ws : Array Weight) (start : Nat) : Nat → Nat
  | 0 => start
  | stop + 1 => if start ≤ stop && ws.getD stop .kept = .doubtful then firmEnd ws start stop else stop + 1

/-- The weights with doubtful elements kept from a place up to another one. -/
def keepDoubtful (ws : Array Weight) (start stop : Nat) : Array Weight :=
  (List.range (stop - start)).foldl
    (fun ws i => ws.modify (start + i) fun w => if w = .doubtful then .kept else w) ws

/-- How many doubtful elements in a row are too many in a run. -/
def mostDoubtful : Nat → Nat → Nat → Nat
  | 0, _, least => least + 1
  | n + 1, left, least =>
    if 0 < left / 4 then mostDoubtful n (left / 4) (2 * least) else least + 1

/-- The weights with doubtful elements kept where too many of them follow each other. The number of those
before a place is given. -/
def keepRows (least stop : Nat) : Nat → Nat → Nat → Array Weight → Array Weight
  | 0, _, _, ws => ws
  | n + 1, i, row, ws =>
    if stop ≤ i then ws
    else if ws.getD i .kept = .doubtful then keepRows least stop n (i + 1) (row + 1) ws
    else
      let ws := if least ≤ row then keepDoubtful ws (i - row) i else ws
      keepRows least stop n (i + 1) 0 ws

/-- The weights with doubtful elements kept at one end of a run, up to three dropped ones in a row, or
a dropped one that is far enough inside. `place` tells where the elements of the run are, from that end
on. -/
def keepEdge (place : Nat → Nat) (length : Nat) : Nat → Nat → Nat → Array Weight → Array Weight
  | 0, _, _, ws => ws
  | n + 1, i, row, ws =>
    if length ≤ i then ws
    else
      match ws.getD (place i) .kept with
      | .dropped => if 8 ≤ i || row = 2 then ws else keepEdge place length n (i + 1) (row + 1) ws
      | .doubtful => keepEdge place length n (i + 1) 0 (ws.setIfInBounds (place i) .kept)
      | .kept => keepEdge place length n (i + 1) 0 ws

/-- The weights after it has been decided about all that is doubtful from a place on. The number bounds
how many elements there are. -/
def decided : Nat → Nat → Array Weight → Array Weight
  | 0, _, ws => ws
  | n + 1, i, ws =>
    if ws.size ≤ i then ws
    else
      match ws.getD i .kept with
      | .kept => decided n (i + 1) ws
      | .doubtful => decided n (i + 1) (ws.setIfInBounds i .kept)
      | .dropped =>
        let whole := runEnd ws ws.size i
        let stop := firmEnd ws i whole
        let ws := keepDoubtful ws stop whole
        let length := stop - i
        let doubtful := ((ws.extract i stop).filter (· = .doubtful)).size
        if length < doubtful * 4 then decided n stop (keepDoubtful ws i stop)
        else
          let ws := keepRows (mostDoubtful length (length / 4) 1) stop (length + 1) i 0 ws
          let ws := keepEdge (fun k => i + k) length length 0 0 ws
          let ws := keepEdge (fun k => stop - 1 - k) length length 0 0 ws
          decided n stop ws

/-- The places of the elements that are kept. -/
def keptPlaces (own other : Array Nat) : Array Nat :=
  let ws := decided (own.size + 1) 0 (weights own other)
  ((List.range own.size).filter fun i => ws.getD i .kept = .kept).toArray

/-- Marks of the places that are not among some. -/
def marksBut (count : Nat) (places : Array Nat) : Array Bool :=
  places.foldl (fun ms i => ms.setIfInBounds i false) (Array.replicate count true)

/-- The marks of two sequences. Elements that say little are changed; a shortest path decides on the
others. -/
def marked (xs ys : Array Nat) : Marks :=
  let xPlaces := keptPlaces xs ys
  let yPlaces := keptPlaces ys xs
  let w : Window := ⟨xPlaces.map fun i => xs.getD i 0, yPlaces.map fun i => ys.getD i 0, 0,
    xPlaces.size, 0, yPlaces.size⟩
  let m := markedIn (w.size + 1) w
    ⟨Array.replicate xPlaces.size false, Array.replicate yPlaces.size false⟩
  let lifted (marks : Array Bool) (places : Array Nat) (own : Array Bool) : Array Bool :=
    places.zipIdx.foldl (fun ms (place, i) => ms.setIfInBounds place (own.getD i false)) marks
  ⟨lifted (marksBut xs.size xPlaces) xPlaces m.first,
    lifted (marksBut ys.size yPlaces) yPlaces m.second⟩

/-! ## Moving runs -/

/-- A run of changed elements, with the place of the other side that belongs to its end. -/
structure Run where
  marks : Array Bool
  start : Nat
  stop : Nat
  other : Nat
  /-- Where the run last ended at a place where the other side is changed as well. -/
  corresponding : Nat

/-- The mark at a place; nothing is changed outside. -/
def markAt (marks : Array Bool) (i : Nat) : Bool := marks.getD i false

/-- The first place from one on that is not marked. The number bounds how far that is. -/
def afterMarked (marks : Array Bool) : Nat → Nat → Nat
  | 0, i => i
  | n + 1, i => if markAt marks i then afterMarked marks n (i + 1) else i

/-- The beginning of the marked places that end before a place. -/
def beforeMarked (marks : Array Bool) : Nat → Nat
  | 0 => 0
  | i + 1 => if markAt marks i then beforeMarked marks i else i + 1

/-- The last place before one that is not marked. -/
def lastUnmarked (marks : Array Bool) : Nat → Nat
  | 0 => 0
  | i + 1 => if markAt marks i then lastUnmarked marks i else i

/-- The run, moved back as long as the element before it is the one at its end. The number bounds how
far that is. -/
def movedBack (own : Array Nat) (others : Array Bool) : Nat → Run → Run
  | 0, r => r
  | n + 1, r =>
    if 0 < r.start && own.getD (r.start - 1) 0 = own.getD (r.stop - 1) 0 then
      let marks := (r.marks.setIfInBounds (r.start - 1) true).setIfInBounds (r.stop - 1) false
      movedBack own others n
        { r with
          marks
          start := beforeMarked marks (r.start - 1)
          stop := r.stop - 1
          other := lastUnmarked others r.other }
    else r

/-- The run, moved forward as long as its first element is the one after it. The number bounds how far
that is. -/
def movedForward (own : Array Nat) (others : Array Bool) : Nat → Run → Run
  | 0, r => r
  | n + 1, r =>
    if r.stop < own.size && own.getD r.start 0 = own.getD r.stop 0 then
      let marks := (r.marks.setIfInBounds r.start false).setIfInBounds r.stop true
      let stop := afterMarked marks own.size (r.stop + 1)
      let other := r.other + 1
      let after := afterMarked others others.size other
      movedForward own others n
        { r with
          marks
          start := r.start + 1
          stop
          other := after
          corresponding := if other < after then stop else r.corresponding }
    else r

/-- The run, moved as long as it grows. The number bounds how often it does. -/
def movedAbout (own : Array Nat) (others : Array Bool) : Nat → Run → Run
  | 0, r => r
  | n + 1, r =>
    let length := r.stop - r.start
    let b := movedBack own others (own.size + 1) r
    let corresponding :=
      if 0 < b.other && markAt others (b.other - 1) then b.stop else own.size
    let f := movedForward own others (own.size + 1) { b with corresponding }
    if f.stop - f.start = length then f else movedAbout own others n f

/-- The run, moved back to where the other side is changed as well. The number bounds how far that
is. -/
def movedToOther (others : Array Bool) : Nat → Run → Run
  | 0, r => r
  | n + 1, r =>
    if r.corresponding < r.stop then
      let marks := (r.marks.setIfInBounds (r.start - 1) true).setIfInBounds (r.stop - 1) false
      movedToOther others n
        { r with
          marks
          start := r.start - 1
          stop := r.stop - 1
          other := lastUnmarked others r.other }
    else r

/-- Moves the runs of one side from a place on, each as far forward as it can go unless it can stand
where the other side is changed. The number bounds how many places there are. -/
def settledFrom (own : Array Nat) (others : Array Bool) : Nat → Array Bool → Nat → Nat → Array Bool
  | 0, marks, _, _ => marks
  | n + 1, marks, i, j =>
    if own.size ≤ i then marks
    else if !markAt marks i then
      settledFrom own others n marks (i + 1) (afterMarked others others.size j + 1)
    else
      let r : Run := ⟨marks, i, afterMarked marks own.size (i + 1), afterMarked others others.size j, 0⟩
      let r := movedToOther others (own.size + 1) (movedAbout own others (own.size + 1) r)
      settledFrom own others n r.marks r.stop r.other

/-- Marks with all runs moved. -/
def settled (xs ys : Array Nat) (m : Marks) : Marks :=
  let first := settledFrom xs m.second (2 * xs.size + 1) m.first 0 0
  ⟨first, settledFrom ys first (2 * ys.size + 1) m.second 0 0⟩

/-! ## Changes -/

/-- The changes that marks tell from two places on. The number bounds how many places there are. -/
def changesFrom (m : Marks) : Nat → Nat → Nat → List Change
  | 0, _, _ => []
  | n + 1, i, j =>
    if m.first.size ≤ i && m.second.size ≤ j then []
    else
      let i' := afterMarked m.first m.first.size i
      let j' := afterMarked m.second m.second.size j
      let here : List Change := if i < i' || j < j' then [⟨i, j, i' - i, j' - j⟩] else []
      here ++ changesFrom m n (i' + 1) (j' + 1)

/-- What turns the first sequence into the second one. Some elements at the beginning and at the end,
which are the same on both sides, are not looked at. -/
def changes (before after : Nat) (xs ys : Array Nat) : List Change :=
  let xs := xs.extract before (xs.size - after)
  let ys := ys.extract before (ys.size - after)
  let m := settled xs ys (marked xs ys)
  (changesFrom m (xs.size + ys.size + 1) 0 0).map fun c =>
    { c with first := c.first + before, second := c.second + before }

end TokenConformance.Sandbox.Text.Difference
