import TokenConformance.Sandbox.Calendar.Format
import TokenConformance.Sandbox.Shell.Condition
import TokenConformance.Sandbox.Shell.Finding.Reader
import TokenConformance.Sandbox.Shell.Tool.Describing
import TokenConformance.Sandbox.Shell.Tool.Gathering

/-! # Looking for files

* `Sight`: a file that is looked at; `Sight.answer`: the answer to a test about it.
* `Sight.field`: what a letter of a format stands for.
* `Course`: what has become of a search; `Seeking`: something that a search does.
* `carryOut`, `ask`: does a deed, and finds out about a query.
* `visit`: looks at a file and at what is below it.
* `Tool.find`: the program that looks for files in trees, and does something with those it finds.
-/

namespace TokenConformance.Sandbox.Shell.Finding

open Sandbox.Text (Bytes Regex)
open Sandbox (Place Kind Node)
open Shell.Tool

/-- A file that is looked at. -/
structure Sight where
  /-- The path by which it was reached. -/
  path : Bytes
  /-- The path at which the search started. -/
  start : Bytes
  depth : Nat
  number : Nat
  node : Node
  /-- What stands there if links are treated the other way round. -/
  other : Option Kind
deriving Inhabited

/-! ## Tests -/

/-- The letter of a kind. -/
def letterOf : Kind → Char
  | .file _ | .program _ => 'f'
  | .directory => 'd'
  | .link _ => 'l'
  | .pipe _ => 'p'
  | .device _ => 'c'

/-- Whether a pattern covers a text. -/
def fits (ignoresCase : Bool) (pattern text : Bytes) : Bool :=
  if ignoresCase then Pattern.fits (pattern.map Char.toLower) (text.map Char.toLower)
  else Pattern.fits pattern text

/-- How many units are needed for a size. -/
def unitsFor (unit size : Nat) : Nat := (size + unit - 1) / unit

namespace Sight

/-- The last part of the path, with the slashes after it. -/
def base (s : Sight) : Bytes :=
  let bare := withoutSlashes s.path
  s.path.drop (bare.length - (lastPart bare).length)

/-- The path of the directory in which the file is. -/
def directory (s : Sight) : Bytes :=
  let bare := withoutSlashes s.path
  if '/' ∈ bare then bare.take (bare.length - (lastPart bare).length - 1) else ['.']

/-- The path from where the search started. -/
def inner (s : Sight) : Bytes :=
  if s.depth = 0 then [] else (s.path.drop s.start.length).dropWhile (· = '/')

/-- The answer to a test. -/
def answer (m : Machine) (s : Sight) : Test → Bool
  | .name ignoresCase pattern => fits ignoresCase pattern (withoutSlashes s.base)
  | .path ignoresCase pattern => fits ignoresCase pattern s.path
  | .target ignoresCase pattern =>
    match s.node.kind with
    | .link target => fits ignoresCase pattern target
    | _ => false
  | .expression r => (r.ends ⟨s.path.toArray, false⟩ 0).contains s.path.length
  | .kind letters isOther =>
    letters.contains (letterOf (if isOther then s.other.getD s.node.kind else s.node.kind))
  | .size unit r => r.has (unitsFor unit (Tool.sizeOf s.node.kind))
  | .isEmpty =>
    match s.node.kind with
    | .file content => content = []
    | .directory => m.files.names ((m.find s.path).toOption.getD []) = []
    | _ => false
  | .newer time => time < s.node.time
  | .age isInDays r =>
    let age := m.files.time - s.node.time
    r.has (if isInDays then age / 86400 else age / 60 + 1) ||
      (!isInDays && r.bound = .below && age / 60 + 1 = r.limit)
  | .mode t wanted => t.holds wanted s.node.mode
  | .links r => r.has (linksTo m s.number)
  | .number r => r.has s.number
  | .owner r => r.has 0
  | .node n => s.number = n
  | .usable test => m.fileTest test s.path
  | .always holds => holds

/-- A time in a form that a letter stands for. Seconds have a part after a point. -/
def timeIn (time : Int) (form : Char) : Bytes :=
  let format : String := match form with
    | '@' => "%s.0000000000"
    | '+' => "%Y-%m-%d+%H:%M:%S.0000000000"
    | 'S' => "%S.0000000000"
    | 'T' | 'X' => "%H:%M:%S.0000000000"
    | c => String.ofList ['%', c]
  (Calendar.Moment.ofSeconds time).format format.toList

/-- What a letter of a format stands for. -/
def field (m : Machine) (s : Sight) (d : Directive) (letter : Char) (second : Option Char) : Bytes :=
  let text (value : Bytes) : Bytes := d.pad (value.take (d.precision.getD value.length))
  let number (n : Nat) : Bytes := text (Bytes.ofInt n)
  let time : Int := s.node.time
  match letter with
  | 'p' => text s.path
  | 'f' => text s.base
  | 'h' => text s.directory
  | 'H' => text s.start
  | 'P' => text s.inner
  | 'd' => d.signed s.depth
  | 's' => number (Tool.sizeOf s.node.kind)
  | 'b' => number (2 * blocksOf s.node.kind)
  | 'k' => number (blocksOf s.node.kind)
  | 'm' => d.unsigned 'o' s.node.mode
  | 'M' => text (kindLetter s.node.kind :: Sandbox.listed s.node.mode)
  | 'n' => number (linksTo m s.number)
  | 'i' => number s.number
  | 'D' => number 1
  | 'u' | 'g' => text "root".toList
  | 'U' | 'G' => number 0
  | 'y' => text [letterOf s.node.kind]
  | 'Y' =>
    match s.node.kind, s.other with
    | .link _, some (.link _) | .link _, none => text ['N']
    | kind, other => text [letterOf (other.getD kind)]
  | 'l' =>
    match s.node.kind with
    | .link target => text target
    | _ => text []
  | 'F' => text "overlay".toList
  | 'S' => text "1".toList
  | 'Z' => text []
  | 'a' | 'c' | 't' =>
    text ((Calendar.Moment.ofSeconds time).format "%a %b %e %H:%M:%S.0000000000 %Y".toList)
  | _ => text (timeIn time (second.getD ' '))

/-- What the parts of a format tell about a file. -/
def told (m : Machine) (s : Sight) : List Piece → Bytes
  | [] => []
  | .text t :: rest => t ++ told m s rest
  | .field d letter second :: rest => s.field m d letter second ++ told m s rest
  | .finish :: _ => []

/-- A line that tells all about a file. -/
def line (m : Machine) (s : Sight) : Bytes :=
  let size : Bytes := match s.node.kind with
    | .device _ =>
      let (kind, which) := deviceNumbers s.node.kind
      paddedNumber 3 kind ++ [','] ++ paddedNumber 4 which
    | kind => Bytes.ofInt (Tool.sizeOf kind)
  let goal : Bytes := match s.node.kind with
    | .link target => " -> ".toList ++ target
    | _ => []
  paddedNumber 9 s.number ++ ' ' :: paddedNumber 6 (blocksOf s.node.kind) ++
    ' ' :: kindLetter s.node.kind :: Sandbox.listed s.node.mode ++
    ' ' :: paddedNumber 3 (linksTo m s.number) ++ " root     root     ".toList ++
    padded 8 size ++ ' ' :: timeText default m.files.time s.node.time ++
    ' ' :: s.path ++ goal ++ ['\n']

end Sight

/-! ## Deeds -/

/-- What has become of a search. -/
structure Course where
  status : Nat
  /-- Whether what is below the file that is looked at is left out. -/
  isPruned : Bool
  /-- Whether nothing more is looked at. -/
  isOver : Bool
  /-- The files for programs that get many of them, the last one first, each with the number of the
  group and the directory in which the program is started. -/
  collected : List (Nat × Bytes × Bytes)
deriving Inhabited

/-- Something that a search does. -/
abbrev Seeking := StateT Course Action

/-- Says something about a file that cannot be looked at. -/
def complainAbout (c : Call) (text : Bytes) (e : SystemError) : Seeking Bool := do
  c.say (text ++ ": ".toList ++ describe e)
  modify fun k => { k with status := 1 }
  return false

/-- Writes to the channel of a deed, or to the output. -/
def tell (channel : Option Nat) (text : Bytes) : Action Unit := do
  match channel with
  | none => print text
  | some channel =>
    match (← get).written channel text with
    | .ok m => set m
    | .error _ => return ()

/-- Starts a program in a directory, or where the search is, and tells how it ended. -/
def started (c : Call) (inside : Option Bytes) (words : List Bytes) : Action (Option Nat) := do
  flush
  let before := (← get).here
  match inside with
  | some directory => modify fun m => { m with here := (m.find directory).toOption.getD before }
  | none => pure ()
  let result ← attempt (c.start words)
  modify fun m => { m with here := before }
  match result with
  | .ok (.ok status) => return some status
  | .ok (.error e) =>
    c.say (inSingleQuotes (words.headD []) ++ ": ".toList ++ describe e)
    return none
  | .error (.killed _) => return none
  | .error j => throw j

/-- The name of a file in its directory, as a program gets it. -/
def nameInside (s : Sight) : Bytes := "./".toList ++ s.base

/-- Removes a file, or a directory if it is empty. -/
def remove (c : Call) (s : Sight) : Seeking Bool := do
  if s.path = ['.'] then return true
  let made ← attemptWith fun m => do
    if s.node.kind = .directory then withoutEmpty m (withoutSlashes s.path)
    else return withoutPlace m (← m.findName s.path)
  match made with
  | .ok () => return true
  | .error e => complainAbout c ("cannot delete ".toList ++ inSingleQuotes s.path) e

/-- Does a deed with a file, and tells whether what is to hold then holds. -/
def carryOut (c : Call) (isDepthFirst : Bool) (s : Sight) : Deed → Seeking Bool
  | .print mark channel => do
    tell channel (s.path ++ [mark])
    return true
  | .format pieces channel => do
    tell channel (s.told (← getThe Machine) pieces)
    return true
  | .list channel => do
    tell channel (s.line (← getThe Machine))
    return true
  | .run words isInside asks => do
    let name := if isInside then nameInside s else s.path
    let inside := if isInside then some s.directory else none
    if asks then
      flush
      let question := filled "< % ... % > ? " [words.headD [], s.path]
      let _ ← write 2 question
      let answer := (← readLine 0).toOption.getD []
      if !(answer.head?.any fun c => c = 'y' || c = 'Y') then return false
    return (← started c inside (words.map (replaced braces name))) = some 0
  | .collect group isInside => do
    let entry := if isInside then (group, s.directory, nameInside s) else (group, [], s.path)
    modify fun k => { k with collected := entry :: k.collected }
    return true
  | .delete => remove c s
  | .prune => do
    if !isDepthFirst then modify fun k => { k with isPruned := true }
    return true
  | .quit => do
    modify fun k => { k with isOver := true }
    return true

/-- Finds out about a query, with the deeds in it. -/
def ask (c : Call) (isDepthFirst : Bool) (s : Sight) : Query → Seeking Bool
  | .test t => return s.answer (← getThe Machine) t
  | .deed d => carryOut c isDepthFirst s d
  | .not q => do return !(← ask c isDepthFirst s q)
  | .both p q => do
    let holds ← ask c isDepthFirst s p
    if !holds || (← get).isOver then return holds
    ask c isDepthFirst s q
  | .either p q => do
    let holds ← ask c isDepthFirst s p
    if holds || (← get).isOver then return holds
    ask c isDepthFirst s q
  | .sequence p q => do
    let holds ← ask c isDepthFirst s p
    if (← get).isOver then return holds
    ask c isDepthFirst s q

/-! ## Trees -/

/-- The file at a path. -/
def sightOf (m : Machine) (f : Following) (start path : Bytes) (depth : Nat) :
    Except SystemError Sight := do
  let (number, node) ← m.files.nodeNamed m.here path
  let goal := m.nodeOf path
  let other := goal.toOption.map (·.2.kind)
  if f = .all || (f = .starts && depth = 0) then
    match goal with
    | .ok (goalNumber, goalNode) => return ⟨path, start, depth, goalNumber, goalNode, some node.kind⟩
    | .error .notFound => return ⟨path, start, depth, number, node, some node.kind⟩
    | .error e => throw e
  else return ⟨path, start, depth, number, node, other⟩

/-- Looks at a file and at what is below it. The directories around it are given. The number bounds how
deep directories are. -/
def visit (c : Call) (p : Plan) (start : Bytes) :
    Nat → List (Nat × Bytes) → Nat → Bytes → Seeking Unit
  | 0, _, _, _ => return ()
  | n + 1, outer, depth, path => do
    if (← get).isOver then return ()
    match sightOf (← getThe Machine) p.following start path depth with
    | .error e =>
      let _ ← complainAbout c (inSingleQuotes path) e
    | .ok s =>
      match outer.find? fun o => o.1 = s.number && s.node.kind = .directory with
      | some (_, around) =>
        c.say (filled
          "File system loop detected; % is part of the same file system loop as %."
          [inSingleQuotes path, inSingleQuotes around])
        modify fun k => { k with status := 1 }
      | none =>
        modify fun k => { k with isPruned := false }
        let look : Seeking Unit := do
          if p.least ≤ depth then
            let _ ← ask c p.isDepthFirst s p.query
        if !p.isDepthFirst then look
        let isEntered := s.node.kind = .directory && !(← get).isPruned && !(← get).isOver &&
          p.most.all (depth < ·)
        if isEntered then
          let m ← getThe Machine
          match m.find path with
          | .ok place =>
            if m.files.isDirectory place then
              for name in m.files.names place do
                visit c p start n ((s.number, path) :: outer) (depth + 1) (pathIn path name)
            else
              let _ ← complainAbout c (inSingleQuotes path) .notFound
          | .error e =>
            let _ ← complainAbout c (inSingleQuotes path) e
        if p.isDepthFirst && !(← get).isOver then look

/-- Starts the programs that get many files together. -/
def finish (c : Call) (p : Plan) : Seeking Unit := do
  let collected := (← get).collected.reverse
  for (group, i) in p.groups.zipIdx do
    let own := (collected.filter (·.1 = i)).map (·.2)
    for directory in (own.map (·.1)).eraseDups do
      let names := (own.filter (·.1 = directory)).map (·.2)
      let inside := if group.isInside then some directory else none
      if (← started c inside (group.words ++ names)) ≠ some 0 then
        modify fun k => { k with status := 1 }

/-- How deep directories may be. -/
def mostNested : Nat := 1000

/-- Looks for all that is wanted. The result is the status. -/
def search (c : Call) (p : Plan) : Action Nat := do
  let all : Seeking Unit := do
    for start in p.starts do
      visit c p start mostNested [] 0 start
    finish c p
  let ((), course) ← all.run default
  return course.status

end TokenConformance.Sandbox.Shell.Finding

namespace TokenConformance.Sandbox.Shell.Tool

open Sandbox.Text (Bytes)

/-- Looks for files in trees, and does something with those that it finds. -/
def find : Tool := fun c => do
  let isAsked (names : List String) : Bool := c.arguments.any fun a => names.any fun n => n.toList = a
  if isAsked ["--help", "-help"] then
    print (filled "Usage: % [-H] [-L] [-P] [-Olevel] [-D debugopts] [path...] [expression]\n" [c.name])
    return 0
  if isAsked ["--version", "-version"] then
    print (c.versionLine ++ ['\n'])
    return 0
  match ← (Finding.planOf c).run with
  | .ok plan => Finding.search c plan
  | .error text =>
    if text = [] then return 1
    c.fail 1 text

end TokenConformance.Sandbox.Shell.Tool
