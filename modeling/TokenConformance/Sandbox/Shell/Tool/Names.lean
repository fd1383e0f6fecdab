import TokenConformance.Sandbox.Shell.Tool.Basic

/-! # Programs for names of files

* `basename`, `dirname`: the parts of paths.
* `canonical`, `realpath`, `readlink`: the places to which paths lead.
* `mktemp`: makes files with new names.
* `pathchk`: tells what is wrong with paths.
-/

namespace TokenConformance.Sandbox.Shell.Tool

open Sandbox.Text (Bytes)
open Sandbox (Place)

/-- The end of a name in a list. -/
def nameEnd (g : Given) : Char := if g.has "z" then '\x00' else '\n'

/-- The last part of a path, or all of it if it consists of slashes. -/
def baseOf (path : Bytes) : Bytes :=
  if path ≠ [] && path.all (· = '/') then ['/'] else lastPart path

/-- A name without an ending, unless nothing would be left. -/
def withoutEnding (ending name : Bytes) : Bytes :=
  if ending ≠ [] && ending ≠ name && ending.isSuffixOf name then
    name.take (name.length - ending.length)
  else name

/-- Writes the last parts of paths. -/
def basename : Tool := fun c =>
  c.withOptionsUpTo true 1 [flag 'a' "multiple", valued 's' "suffix", flag 'z' "zero"] fun g => do
    let isList := g.has "a" || g.has "s"
    match g.operands with
    | [] => c.misused 1 "missing operand".toList
    | path :: rest =>
      if !isList && 1 < rest.length then
        return ← c.misused 1 ("extra operand ".toList ++ inSingleQuotes (rest.getD 1 []))
      let ending := if isList then (g.value? "s").getD [] else rest.headD []
      for p in (if isList then path :: rest else [path]) do
        print (withoutEnding ending (baseOf p) ++ [nameEnd g])
      return 0

/-- A path without its last part. -/
def directoryOf (path : Bytes) : Bytes :=
  let bare := (path.reverse.dropWhile (· = '/')).reverse
  if bare = [] then if path = [] then ['.'] else ['/']
  else
    let around := bare.reverse.dropWhile (· ≠ '/')
    if around = [] then ['.']
    else
      match (around.dropWhile (· = '/')).reverse with
      | [] => ['/']
      | directory => directory

/-- Writes paths without their last parts. -/
def dirname : Tool := fun c => c.withOptionsUpTo true 1 [flag 'z' "zero"] fun g => do
  if g.operands = [] then return ← c.misused 1 "missing operand".toList
  for p in g.operands do
    print (directoryOf p ++ [nameEnd g])
  return 0

/-! ## Places -/

/-- Which parts of a path have to be there. -/
inductive Existing where
  | all
  | allButLast
  | none
deriving DecidableEq, Inhabited

/-- The place to which a path leads where nothing has to be there. -/
def placeAnyway (m : Machine) (path : Bytes) : Place :=
  let start : Place := if Sandbox.isAbsolute path then [] else m.here
  (Sandbox.pathParts path).foldl
    (fun here part =>
      if Sandbox.isIdle part then here
      else if Sandbox.isUpwards part then here.dropLast
      else
        match m.files.find here part with
        | .ok place => place
        | .error _ => here ++ [part]) start

/-- The place to which a path leads. -/
def canonical (m : Machine) (e : Existing) (path : Bytes) : Except SystemError Place := do
  if path = [] then throw .notFound
  match e with
  | .none => return placeAnyway m path
  | .all =>
    let place ← m.find path
    if (m.files.number? place).isSome then return place else throw .notFound
  | .allButLast => m.find (withoutSlashes path)

/-- A place as a path from another one. -/
def relativePath (start target : Place) : Bytes :=
  let common := ((start.zip target).takeWhile fun p => p.1 = p.2).length
  let upwards := List.replicate (start.length - common) "..".toList
  match upwards ++ target.drop common with
  | [] => ['.']
  | parts => Bytes.joined ['/'] parts

/-- Writes the places to which paths lead. -/
def realpath : Tool := fun c =>
  c.withOptions
    [flag 'e' "canonicalize-existing", flag 'm' "canonicalize-missing", flag 'L' "logical",
      flag 'P' "physical", flag 'q' "quiet", flag 's' "strip", longFlag "no-symlinks",
      longValued "relative-to", longValued "relative-base", flag 'z' "zero"] fun g => do
    if g.operands = [] then return ← c.misused 1 "missing operand".toList
    let m ← get
    let e : Existing := if g.has "e" then .all else if g.has "m" then .none else .allButLast
    let keepsLinks := g.has "s" || g.has "no-symlinks"
    let placeOf (path : Bytes) : Except SystemError Place :=
      if keepsLinks then
        if path = [] then .error .notFound else .ok (Sandbox.FileTree.plainPlace m.here path)
      else canonical m e path
    let base? (name : String) : Option Place :=
      (g.value? name).bind fun path => (placeOf path).toOption
    Call.forEach g.operands fun path => do
      match placeOf path with
      | .error err =>
        if g.has "q" then return false
        c.refuse (named path) err
      | .ok place =>
        let below (base : Place) : Bool := base.isPrefixOf place
        let shown : Bytes := match base? "relative-to", base? "relative-base" with
          | some start, none => relativePath start place
          | none, some base => if below base then relativePath base place
            else Sandbox.pathOf place
          | some start, some base =>
            if below base then relativePath start place else Sandbox.pathOf place
          | none, none => Sandbox.pathOf place
        print (shown ++ [nameEnd g])
        return true

/-- Writes where links lead. -/
def readlink : Tool := fun c =>
  c.withOptions
    [flag 'f' "canonicalize", flag 'e' "canonicalize-existing", flag 'm' "canonicalize-missing",
      flag 'n' "no-newline", flag 'q' "quiet", flag 's' "silent", flag 'v' "verbose",
      flag 'z' "zero"] fun g => do
    if g.operands = [] then return ← c.misused 1 "missing operand".toList
    let isList := 1 < g.operands.length
    if g.has "n" && isList then
      c.say "ignoring --no-newline with multiple arguments".toList
    let ending : Bytes := if g.has "n" && !isList then [] else [nameEnd g]
    let m ← get
    let target (path : Bytes) : Except SystemError Bytes :=
      let at? (e : Existing) : Except SystemError Bytes := (canonical m e path).map Sandbox.pathOf
      match g.lastOf? ["f", "e", "m"] with
      | some "f" => at? .allButLast
      | some "e" => at? .all
      | some _ => at? .none
      | none => do
        let (_, node) ← m.files.nodeNamed m.here path
        match node.kind with
        | .link target => return target
        | _ => throw (.other "Invalid argument" 22)
    Call.forEach g.operands fun path => do
      match target path with
      | .ok text =>
        print (text ++ ending)
        return true
      | .error e =>
        if g.has "v" then c.refuse (named path) e else return false

/-! ## New names -/

/-- The letters of new names. -/
def nameLetters : Bytes :=
  "abcdefghijklmnopqrstuvwxyzABCDEFGHIJKLMNOPQRSTUVWXYZ0123456789".toList

/-- A name with letters in the place of the last `X` characters. -/
def filledName (seed count : Nat) (before after : Bytes) : Bytes :=
  let letter (i : Nat) : Char :=
    nameLetters.getD ((seed * 7919 + i * 31 + seed / Nat.pow 62 (i % 3)) % nameLetters.length) 'a'
  before ++ (List.range count).map letter ++ after

/-- A new name of a form that nothing has yet. The number bounds how many are tried. -/
def freshName (m : Machine) (count : Nat) (before after : Bytes) : Nat → Nat → Bytes
  | 0, seed => filledName seed count before after
  | n + 1, seed =>
    let name := filledName seed count before after
    if (m.kindNamed? name).isSome then freshName m count before after n (seed + 1) else name

/-- Makes files or directories with new names. -/
def mktemp : Tool := fun c =>
  c.withOptions
    [flag 'd' "directory", flag 'u' "dry-run", flag 'q' "quiet", longValued "suffix",
      variant 'p' "tmpdir", flag 't' "", flag 'V' ""] fun g => do
    if 1 < g.operands.length then return ← c.misused 1 "too many templates".toList
    let m ← get
    let temporary := ((m.lookup? "TMPDIR".toList).filter (· ≠ [])).getD "/tmp".toList
    let template := g.operands.headD "tmp.XXXXXXXXXX".toList
    let directory? : Option Bytes :=
      if g.has "p" then some (((g.value? "p").filter (· ≠ [])).getD temporary)
      else if g.has "t" || g.operands = [] then some temporary
      else none
    let trailing := template.reverse.dropWhile (· ≠ 'X')
    let count := (trailing.takeWhile (· = 'X')).length
    let after := (template.drop trailing.length) ++ (g.value? "suffix").getD []
    if count < 3 then
      return ← c.fail 1 ("too few X's in template ".toList ++ inSingleQuotes template)
    let start := (trailing.drop count).reverse
    let before := match directory? with
      | some d => if d.getLast? = some '/' then d ++ start else d ++ '/' :: start
      | none => start
    let path := freshName m count before after 100 (m.files.time + 1)
    if g.has "u" then
      print (path ++ ['\n'])
      return 0
    match m.findForWriting path with
    | .error e =>
      if g.has "q" then return 1
      let noun := if g.has "d" then "directory" else "file"
      c.fail 1 (filled "failed to create % via template %: %"
        [noun.toList, inSingleQuotes (before ++ List.replicate count 'X' ++ after), describe e])
    | .ok place =>
      let files := if g.has "d" then m.files.add place .directory 0o700
        else m.files.add place (.file []) 0o600
      set { m with files }
      print (path ++ ['\n'])
      return 0

/-- Tells what is wrong with paths. -/
def pathchk : Tool := fun c =>
  c.withOptions [flag 'p' "", flag 'P' "", longFlag "portability"] fun g => do
    if g.operands = [] then return ← c.misused 1 "missing operand".toList
    let isPortable (c : Char) : Bool := c.isAlphanum || c ∈ "._-/".toList
    let basic := g.has "p" || g.has "portability"
    let extra := g.has "P" || g.has "portability"
    Call.forEach g.operands fun path => do
      let m ← get
      let hasHyphen := extra && (path.splitOn '/').any fun part => part.head? = some '-'
      if hasHyphen then
        c.say ("leading '-' in a component of file name ".toList ++ inSingleQuotes path)
        return false
      if (basic || extra) && path = [] then
        c.say "empty file name".toList
        return false
      if basic then
        match path.find? fun c => !isPortable c with
        | some wrong =>
          c.say (filled "non-portable character % in file name %"
            [inSingleQuotes [wrong], inSingleQuotes path])
          return false
        | none => return true
      else
        match m.find path with
        | .ok _ => return true
        | .error .notFound => if path = [] then c.refuse (named path) .notFound else return true
        | .error e => c.refuse (named path) e

end TokenConformance.Sandbox.Shell.Tool
