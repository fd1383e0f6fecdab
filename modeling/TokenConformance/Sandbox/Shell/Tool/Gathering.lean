import TokenConformance.Sandbox.Shell.Tool.Messages
import TokenConformance.Sandbox.Shell.Tool.Starting

/-! # A program that makes arguments of its input

* `Gathering`: how arguments are made and handed to a program.
* `Item`: an argument that has been found; `itemsOf` finds them in a text.
* `Gathering.groups`: which arguments a program is started with together.
* `xargs`: starts a program with the arguments that it reads.
-/

namespace TokenConformance.Sandbox.Shell.Tool

open Sandbox.Text (Bytes)

/-- How arguments are made and handed to a program. -/
structure Gathering where
  /-- How many arguments there are at most, in a program that is started. -/
  most : Option Nat
  /-- How many lines they come from at most. -/
  lines : Option Nat
  /-- How long they are at most. -/
  size : Nat
  /-- The text for which every line is put. -/
  place : Option Bytes
  /-- The character after an argument, if blanks and quotes mean nothing. -/
  mark : Option Char
  /-- The argument after which nothing is read. -/
  last : Option Bytes
  /-- What was said about the options, the last one first. -/
  warnings : List Bytes
deriving Inhabited

/-- An argument that has been found, and whether a line ended after it. -/
structure Item where
  text : Bytes
  endsLine : Bool
deriving DecidableEq, Inhabited

/-- Where a character stands that is read. -/
inductive Standing where
  | between
  | inside
  | quoted (mark : Char)
  | escaped
deriving DecidableEq, Inhabited

/-- The arguments that have been found, the last one first, and why nothing more can be read. -/
structure Found where
  items : List Item
  fault : Option Bytes
deriving Inhabited

/-- What is said about a quote without its end. -/
def quoteFault (mark : Char) : Bytes :=
  filled "unmatched % quote; by default quotes are special to xargs unless you use the -0 option"
    [if mark = '"' then "double".toList else "single".toList]

/-- Finds the arguments in a text, which blanks separate unless whole lines are wanted. The argument
that is being read has its last character first; a line may have had quotes. -/
def itemsAfter (takesLines : Bool) (room : Nat) (previous : Char) :
    Standing → Bytes → Bool → Found → Bytes → Found
  | standing, current, _, found, [] =>
    match standing with
    | .quoted mark => { found with fault := some (quoteFault mark) }
    | _ =>
      if current = [] then found
      else { found with items := ⟨current.reverse, true⟩ :: found.items }
  | standing, current, hadQuotes, found, c :: rest =>
    let grow (standing : Standing) : Found :=
      if room ≤ current.length then
        { found with fault := some "argument line too long".toList }
      else itemsAfter takesLines room c standing (c :: current) hadQuotes found rest
    let isBlank (c : Char) : Bool := c = ' ' || c = '\t'
    let inside : Found :=
      if c = '\n' then
        if current = [] && !hadQuotes then
          itemsAfter takesLines room c .between [] false found rest
        else
          itemsAfter takesLines room c .between [] false
            { found with items := ⟨current.reverse, !isBlank previous⟩ :: found.items } rest
      else if !takesLines && isBlank c then
        itemsAfter takesLines room c .between [] hadQuotes
          { found with items := ⟨current.reverse, false⟩ :: found.items } rest
      else if c = '\\' then itemsAfter takesLines room c .escaped current hadQuotes found rest
      else if c = '\'' || c = '"' then
        itemsAfter takesLines room c (.quoted c) current true found rest
      else grow .inside
    match standing with
    | .between =>
      if Text.isSpace c then itemsAfter takesLines room c .between current hadQuotes found rest
      else inside
    | .inside => inside
    | .escaped => grow .inside
    | .quoted mark =>
      if c = '\n' then { found with fault := some (quoteFault mark) }
      else if c = mark then itemsAfter takesLines room c .inside current true found rest
      else grow (.quoted mark)

namespace Gathering

/-- The arguments in a text, and why there are no more. -/
def itemsOf (g : Gathering) (room : Nat) (text : Bytes) : List Item × Option Bytes :=
  match g.mark with
  | some mark =>
    let parts := text.splitOn mark
    let parts := if parts.getLast? = some [] then parts.dropLast else parts
    (parts.map (⟨·, true⟩), none)
  | none =>
    let found := itemsAfter g.place.isSome room '\n' .between [] false ⟨[], none⟩ text
    let items := found.items.reverse
    match items.findIdx? fun i => g.last = some i.text with
    | some n => (items.take n, none)
    | none => (items, found.fault)

/-- How much of the room for arguments a text takes. -/
def weight (words : List Bytes) : Nat := (words.map fun w => w.length + 1).foldl (· + ·) 0

/-- The arguments with which a program is started together. `before` is how much room is taken
anyway, `group` the arguments so far, the last one first. -/
def groups (g : Gathering) (before : Nat) (group : List Bytes) (lines : Nat) :
    List Item → List (List Bytes)
  | [] => if group = [] then [] else [group.reverse]
  | item :: rest =>
    let isFull := g.most = some group.length || g.size < before + weight (item.text :: group)
    let (done, group) : List (List Bytes) × List Bytes :=
      if isFull && group ≠ [] then ([group.reverse], []) else ([], group)
    let group := item.text :: group
    let lines := lines + if item.endsLine then 1 else 0
    if g.lines.any (· ≤ lines) then done ++ group.reverse :: groups g before [] 0 rest
    else done ++ groups g before group lines rest

/-- The gathering with a warning about two options. -/
def warned (g : Gathering) (option earlier : String) : Gathering :=
  let warning := filled
    "warning: options % and % are mutually exclusive, ignoring previous % value"
    [earlier.toList, option.toList, earlier.toList]
  { g with warnings := warning :: g.warnings }

/-- The gathering without what another option has said. -/
def without (g : Gathering) (option : String) : Gathering :=
  let g := if option ≠ "--max-args/-n" && g.most.isSome then
    { g.warned option "--max-args" with most := none } else g
  let g := if (option.take 6).copy ≠ "--max-" && option ≠ "-L" || option = "--max-args/-n" then
    if g.lines.isSome then { g.warned option "--max-lines" with lines := none } else g
    else g
  if option ≠ "--replace/-I/-i" && g.place.isSome then
    { g.warned option "--replace" with place := none }
  else g

/-- The largest size of the arguments of a program. -/
def largestSize : Nat := 2095009

/-- How arguments are made if nothing is said about it. -/
def standard : Gathering := ⟨none, none, 131072, none, none, none, []⟩

/-- The character that a text such as `\n` stands for. -/
def markOf? (text : Bytes) : Option Char :=
  match text with
  | [c] => some c
  | ['\\', c] => if c = '0' then some '\x00' else escapeLetter? c
  | '\\' :: 'x' :: digits =>
    if digits ≠ [] && digits.all Text.isHexDigit then some (Char.ofNat (hexValue digits % 256)) else none
  | '\\' :: digits =>
    if digits.all isOctal then some (Char.ofNat (digits.foldl (fun n c => n * 8 + (c.toNat - 48)) 0))
    else none
  | _ => none
/-- A number that an option gives, or what is wrong with it and whether that is the end. -/
def numberOf (letter : Char) (least : Nat) (text : Bytes) : Except Bytes Nat :=
  match integer? text with
  | none => .error (filled "invalid number \"%\" for -% option" [text, [letter]])
  | some n =>
    if n < least then
      .error (filled "value % for -% option should be >= %"
        [Bytes.ofInt n, [letter], Bytes.ofInt least])
    else .ok n.toNat

/-- The gathering after one more option. An error tells what is wrong, and whether to tell how to find
out about options. -/
def after (g : Gathering) (option : String × Bytes) : Except (Bytes × Bool) Gathering := do
  let text := option.2
  let number (c : Char) (least : Nat) : Except (Bytes × Bool) Nat :=
    (numberOf c least text).mapError (·, true)
  match option.1 with
  | "n" =>
    let n ← number 'n' 1
    if n = 1 && g.place.isSome then return { g with most := none }
    return { g.without "--max-args/-n" with most := some n }
  | "L" => return { g.without "-L" with lines := some (← number 'L' 1) }
  | "l" =>
    let n ← if text = [] then pure 1 else number 'l' 1
    return { g.without "--max-lines/-l" with lines := some n }
  | "I" => return { g.without "--replace/-I/-i" with place := some text }
  | "i" =>
    let place := if text = [] then "\x7b\x7d".toList else text
    return { g.without "--replace/-I/-i" with place := some place }
  | "s" =>
    let n ← number 's' 1
    if n ≤ largestSize then return { g with size := n }
    return { g with
      size := largestSize
      warnings := filled "value % for -s option should be <= %" [text, Bytes.ofInt largestSize] ::
        g.warnings }
  | "P" =>
    let _ ← number 'P' 0
    return g
  | "0" => return { g with mark := some '\x00' }
  | "d" =>
    match markOf? text with
    | some c => return { g with mark := some c }
    | none =>
      let rule := "the delimiter must be either a single character or an escape sequence " ++
        "starting with \\."
      throw (filled ("Invalid input delimiter specification %: " ++ rule) [text], false)
  | "E" | "e" => return { g with last := if text = [] then none else some text }
  | _ => return g

end Gathering

/-- What ends a row of programs that are started. -/
structure Halt where
  status : Nat
  message : Bytes

/-- Starts a program for a group of arguments. The status is that of the program. -/
def startGroup (c : Call) (isShown : Bool) (words : List Bytes) : Action (Except Halt Nat) := do
  flush
  if isShown then complain (Bytes.joined [' '] (words.map named))
  let name := words.headD []
  match ← attempt (c.start words) with
  | .ok (.ok 255) => return .error ⟨124, name ++ ": exited with status 255; aborting".toList⟩
  | .ok (.ok status) => return .ok status
  | .ok (.error e) => return .error ⟨startStatus e, name ++ ": ".toList ++ describe e⟩
  | .error (.killed signal) =>
    return .error ⟨125, name ++ ": terminated by signal ".toList ++ Bytes.ofInt signal⟩
  | .error j => throw j

/-- Starts a program for every group of arguments, until something ends that. The status says whether
all of them went well. -/
def startGroups (c : Call) (isShown : Bool) : List (List Bytes) → Nat → Action (Except Halt Nat)
  | [], status => return .ok status
  | words :: rest, status => do
    match ← startGroup c isShown words with
    | .error halt => return .error halt
    | .ok n => startGroups c isShown rest (if n = 0 then status else 123)

/-- A text with another one in every place of a third one. -/
def replaced (place text : Bytes) : Bytes → Bytes
  | [] => []
  | c :: rest =>
    if place ≠ [] && place.isPrefixOf (c :: rest) then
      text ++ replaced place text (rest.drop (place.length - 1))
    else c :: replaced place text rest
termination_by cs => cs.length

/-- Starts a program with the arguments that it reads. -/
def xargs : Tool := fun c =>
  let forms := [flag '0' "null", valued 'a' "arg-file", valued 'd' "delimiter", valued 'E' "",
    variant 'e' "eof", valued 'I' "", variant 'i' "replace", valued 'L' "", variant 'l' "max-lines",
    valued 'n' "max-args", flag 'o' "open-tty", valued 'P' "max-procs", flag 'p' "interactive",
    longValued "process-slot-var", flag 'r' "no-run-if-empty", valued 's' "max-chars",
    longFlag "show-limits", flag 't' "verbose", flag 'x' "exit"]
  c.withOptionsUpTo true 1 forms fun g => do
    match g.options.foldlM Gathering.after Gathering.standard with
    | .error (text, isMisused) => if isMisused then c.misused 1 text else c.fail 1 text
    | .ok way =>
      for warning in way.warnings.reverse do
        c.say warning
      let start := if g.operands = [] then ["echo".toList] else g.operands
      let input ← match g.value? "a" with
        | some path =>
          match ← readPath path with
          | .ok text => pure text
          | .error e =>
            return ← c.fail 1 (filled "Cannot open input file %: %" [inSingleQuotes path, describe e])
        | none =>
          let text := (← readAll 0).toOption.getD []
          connect 0 (some (← openChannel (.device .null)))
          pure text
      let before := Gathering.weight start
      let (items, fault) := way.itemsOf (way.size - before - 1) input
      if way.mark.isNone && items.any fun i => '\x00' ∈ i.text then
        c.say ("WARNING: a NUL character occurred in the input.  It cannot be passed through in " ++
          "the argument list.  Did you mean to use the --null option?").toList
      let items := items.map fun i => { i with text := i.text.takeWhile (· ≠ '\x00') }
      let all : List (List Bytes) := match way.place with
        | some place => items.map fun i =>
          start.take 1 ++ (start.drop 1).map (replaced place i.text)
        | none =>
          match way.groups before [] 0 items with
          | [] => if g.has "r" || fault.isSome then [] else [start]
          | groups => groups.map (start ++ ·)
      let isShown := g.has "t"
      match ← startGroups c isShown (if fault.isSome then all.dropLast else all) 0 with
      | .error halt => c.fail halt.status halt.message
      | .ok status =>
        match fault with
        | some text =>
          -- The last group has been started, but nobody has waited for it.
          c.say text
          let _ ← startGroups c isShown all.getLast?.toList 0
          return 1
        | none => return status

end TokenConformance.Sandbox.Shell.Tool
