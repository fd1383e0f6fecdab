import TokenConformance.Sandbox.Shell.Tool.Placing

/-! # Programs that remove files

* `removePath`: removes a file, or a directory with all that is in it.
* `rm`, `unlink`: remove files; `rmdir`: removes directories that are empty.
-/

namespace TokenConformance.Sandbox.Shell.Tool

open Sandbox.Text (Bytes)
open Sandbox (Place Kind Node)

/-- The machine without what stands at a place. -/
def withoutPlace (m : Machine) (place : Place) : Machine :=
  { m with files := m.files.remove place }

/-- What kind of thing a program asks about. -/
def kindText : Kind → String
  | .file [] => "regular empty file"
  | .file _ | .program _ => "regular file"
  | .directory => "directory"
  | .link _ => "symbolic link"
  | .pipe _ => "fifo"
  | .device _ => "character special file"

/-- How files are removed. -/
structure Removal where
  /-- Whether directories are removed with all that is in them. -/
  isDeep : Bool
  /-- Whether empty directories are removed. -/
  takesEmpty : Bool
  /-- Whether files may be missing. -/
  isForced : Bool
  asksAlways : Bool
  isShown : Bool
deriving DecidableEq, Inhabited

/-- Removes a file, or a directory with all that is in it. The result says whether that went well.
The number bounds how deep directories are. -/
def removePath (c : Call) (r : Removal) : Nat → Bytes → Action Bool
  | 0, _ => return true
  | n + 1, path => do
    let m ← get
    let cannot (e : SystemError) : Action Bool :=
      c.refuse ("cannot remove ".toList ++ inQuotes path) e
    let agreed (verb : String) (kind : Kind) : Action Bool :=
      if r.asksAlways then c.agrees (filled (verb ++ " % %") [(kindText kind).toList, inQuotes path])
      else pure true
    let found : Except SystemError (Place × Node) := do
      let place ← m.findName (withoutSlashes path)
      match m.files.node? place with
      | some node => return (place, node)
      | none => throw .notFound
    match found with
    | .error e =>
      if r.isForced && (e = .notFound || e = .notADirectory) then return true else cannot e
    | .ok (place, node) =>
      if node.kind ≠ .directory then
        if path.getLast? = some '/' then return ← cannot .notADirectory
        if !(← agreed "remove" node.kind) then return true
        set (withoutPlace (← get) place)
        if r.isShown then print (filled "removed %\n" [inQuotes path])
        return true
      let names := (m.files.names place).reverse
      if !r.isDeep && !r.takesEmpty then return ← cannot .isADirectory
      if !r.isDeep && names ≠ [] then return ← cannot .notEmpty
      if names ≠ [] then
        if !(← agreed "descend into" .directory) then return true
      let results ← names.mapM fun name => removePath c r n (pathIn (withoutSlashes path) name)
      if !results.all id then return false
      if !(← agreed "remove" .directory) then return true
      let m ← get
      if m.files.names place ≠ [] then return true
      set (withoutPlace m place)
      if r.isShown then print (filled "removed directory %\n" [inQuotes path])
      return true

/-- How deep directories may be. -/
def mostDirectories : Nat := 2000

/-- Removes files. -/
def rm : Tool := fun c =>
  c.withOptions
    [flag 'f' "force", flag 'i' "", flag 'I' "", longVariant "interactive", flag 'r' "recursive",
      flag 'R' "", flag 'd' "dir", flag 'v' "verbose", longVariant "preserve-root",
      longFlag "no-preserve-root", longFlag "one-file-system"] fun g => do
    let whenAsked := (g.value? "interactive").getD []
    let known := [("never", "f"), ("no", "f"), ("none", "f"), ("once", "I"), ("always", "i"),
      ("yes", "i"), ("", "i")]
    match known.find? fun k => k.1.toList = whenAsked with
    | none =>
      c.say (filled "invalid argument % for '--interactive'" [inSingleQuotes whenAsked])
      for line in ["Valid arguments are:", "  - 'never', 'no', 'none'", "  - 'once'",
          "  - 'always', 'yes'"] do
        complain line.toList
      complain c.hint
      return 1
    | some (_, meant) =>
      let last := match g.lastOf? ["f", "i", "I", "interactive"] with
        | some "interactive" => meant
        | some key => key
        | none => ""
      if g.operands = [] then
        if last = "f" then return 0 else return ← c.misused 1 "missing operand".toList
      let isDeep := g.has "r" || g.has "R"
      let count := g.operands.length
      if last = "I" && (isDeep || 3 < count) then
        let noun := if count = 1 then "argument" else "arguments"
        let question := filled "remove % %" [Bytes.ofInt count, noun.toList] ++
          (if isDeep then " recursively".toList else [])
        if !(← c.agrees question) then return 0
      let r : Removal := ⟨isDeep, g.has "d", last = "f", last = "i", g.has "v"⟩
      Call.forEach g.operands fun path => do
        let base := baseOf path
        if isDeep && (base = ['.'] || base = ['.', '.']) then
          c.say ("refusing to remove '.' or '..' directory: skipping ".toList ++ inQuotes path)
          return false
        if isDeep && path ≠ [] && path.all (· = '/') then
          c.say "it is dangerous to operate recursively on '/'".toList
          c.say "use --no-preserve-root to override this failsafe".toList
          return false
        removePath c r mostDirectories path

/-- Removes a file. -/
def unlink : Tool := fun c => c.withOptions [] fun g => do
  match g.operands with
  | [] => c.misused 1 "missing operand".toList
  | [path] =>
    let made ← attemptWith fun m => do
      let place ← m.findName path
      match m.files.kind? place with
      | none => throw .notFound
      | some .directory => throw .isADirectory
      | some _ => return withoutPlace m place
    match made with
    | .ok () => return 0
    | .error e => c.fail 1 (filled "cannot unlink %: %" [inQuotes path, describe e])
  | _ :: extra :: _ => c.misused 1 ("extra operand ".toList ++ inQuotes extra)

/-- The machine without a directory that is empty. -/
def withoutEmpty (m : Machine) (path : Bytes) : Except SystemError Machine := do
  let place ← m.findName path
  match m.files.kind? place with
  | none => throw .notFound
  | some .directory =>
    if place = [] then throw (.other "Device or resource busy" 16)
    let base := baseOf path
    if base = ['.'] then throw .invalid
    if m.files.names place ≠ [] then throw .notEmpty
    return withoutPlace m place
  | some _ => throw .notADirectory

/-- Removes directories that are empty. -/
def rmdir : Tool := fun c =>
  c.withOptions
    [flag 'p' "parents", flag 'v' "verbose", longFlag "ignore-fail-on-non-empty"] fun g => do
    if g.operands = [] then return ← c.misused 1 "missing operand".toList
    Call.forEach g.operands fun path => do
      let bare := withoutSlashes path
      let outer := (List.range bare.length).filterMap fun i =>
        if 0 < i && bare[i]? = some '/' then some (bare.take i) else none
      let paths := path :: if g.has "p" then outer.reverse else []
      for (p, i) in paths.zipIdx do
        if g.has "v" then
          print (c.name ++ ": removing directory, ".toList ++ inQuotes p ++ ['\n'])
        match ← attemptWith fun m => withoutEmpty m p with
        | .ok () => pure ()
        | .error e =>
          if g.has "ignore-fail-on-non-empty" && e = .notEmpty then return true
          let text := if i = 0 then "failed to remove " else "failed to remove directory "
          return ← c.refuse (text.toList ++ inQuotes p) e
      return true

end TokenConformance.Sandbox.Shell.Tool
