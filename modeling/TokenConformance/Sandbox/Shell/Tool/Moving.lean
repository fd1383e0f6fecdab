import TokenConformance.Sandbox.Shell.Tool.Making
import TokenConformance.Sandbox.Shell.Tool.Removing

/-! # Programs that copy and move files

* `Way`: how files are copied or moved.
* `copyPath`: copies a file, or a directory with all that is in it.
* `cp`: copies files; `install`: copies them with new permissions.
* `mv`: moves files.
-/

namespace TokenConformance.Sandbox.Shell.Tool

open Sandbox.Text (Bytes)
open Sandbox (Place Kind Node)

/-! ## What is in the way -/

/-- What is done where something stands already. -/
inductive Replacing where
  | always
  | never
  | asking
  | ifOlder
deriving DecidableEq, Inhabited

/-- How files are copied or moved. -/
structure Way where
  /-- Whether directories are copied with all that is in them. -/
  isDeep : Bool
  /-- Whether links are copied and not what they lead to. -/
  keepsLinks : Bool
  /-- Whether copies look as old as what they are copies of, and the mask is ignored. -/
  keepsFacts : Bool
  replacing : Replacing
  /-- Whether what is in the way is removed first. -/
  removesFirst : Bool
  isShown : Bool
  /-- What a copy is, if it has no content of its own. -/
  linking : Option Char
  hasContent : Bool
deriving DecidableEq, Inhabited

/-- Says what goes where. -/
def showTransfer (before : String) (t : Transfer) (older? : Option Bytes) : Action Unit :=
  let backup := match older? with
    | some path => filled " (backup: %)" [inQuotes path]
    | none => []
  print (before.toList ++ filled "% -> %" [inQuotes t.source, inQuotes t.target] ++ backup ++ ['\n'])

/-- Makes way for a file where another one stands. The result is the name that the other one has got,
or else tells whether all is well although nothing goes there. -/
def makeWay (c : Call) (g : Given) (w : Way) (node there : Node) (t : Transfer) :
    Action (Except Bool (Option Bytes)) := do
  let isMove := lastPart c.name = "mv".toList
  let asks := w.replacing = .asking || isMove && w.replacing = .ifOlder && g.has "i"
  if node.kind ≠ .directory then
    if w.replacing = .ifOlder && node.time ≤ there.time then return .error true
    if w.replacing = .never then
      if isMove then
        c.say ("not replacing ".toList ++ inQuotes t.target)
        return .error false
      return .error true
    if asks then
      if !(← c.agrees ("overwrite ".toList ++ inQuotes t.target)) then return .error false
  let m ← get
  if keepsOlder g && there.kind ≠ .directory then
    let older := olderName m g t.target
    match withOlder m t.target older with
    | .ok m =>
      set m
      return .ok (some older)
    | .error e =>
      return .error (← c.refuse ("cannot backup ".toList ++ inQuotes t.target) e)
  return .ok none

/-! ## Copies -/

/-- Puts the copy of a file where nothing is in the way, or where a file is whose content it
replaces. -/
def putCopy (w : Way) (number : Nat) (source : Node) (t : Transfer) :
    Action (Except SystemError Unit) := do
  let m ← get
  let there? := (m.nodeOf t.target).toOption
  match w.linking, source.kind with
  | some 's', _ => attemptWith fun m => m.added t.target (.link t.source) 0o777
  | some _, _ => attemptWith fun m => do
      return { m with files := m.files.place (← m.newPlace t.target) number }
  | none, .link target => attemptWith fun m => m.added t.target (.link target) 0o777
  | none, _ =>
    let content ← if w.hasContent then readPath t.source else pure (.ok [])
    match ← Call.putPath .writing t.target (content.toOption.getD []) with
    | .error e => return .error e
    | .ok () =>
      let m ← get
      match m.nodeOf t.target with
      | .ok (n, node) =>
        let mode := if w.keepsFacts then source.mode
          else match there? with
            | some (_, there) => there.mode
            | none => m.masked (source.mode &&& 0o777)
        let time := if w.keepsFacts then source.time else node.time
        set { m with files := m.files.modify n fun node => { node with mode, time } }
        return .ok ()
      | .error e => return .error e

/-- Copies something that is no directory. The result says whether that went well. -/
def copyFile (c : Call) (g : Given) (w : Way) (number : Nat) (node : Node) (t : Transfer) :
    Action Bool := do
  let m ← get
  let put (older? : Option Bytes) : Action Bool := do
    if w.isShown then showTransfer "" t older?
    match ← putCopy w number node t with
    | .ok () => return true
    | .error e => c.refuse ("cannot create regular file ".toList ++ inQuotes t.target) e
  match m.files.nodeNamed m.here t.target with
  | .error .notFound | .error .isADirectory =>
    if t.target.getLast? = some '/' then
      c.refuse ("cannot create regular file ".toList ++ inQuotes t.target) .notADirectory
    else put none
  | .error e =>
    if t.target.getLast? = some '/' then
      c.refuse ("cannot create regular file ".toList ++ inQuotes t.target) e
    else c.refuse ("cannot stat ".toList ++ inQuotes t.target) e
  | .ok (_, named) =>
    match m.nodeOf t.target with
    | .error _ =>
      match named.kind with
      | .link _ =>
        if w.removesFirst then
          set (withoutPlace m ((m.findName t.target).toOption.getD []))
          put none
        else
          c.say ("not writing through dangling symlink ".toList ++ inQuotes t.target)
          return false
      | _ => put none
    | .ok (other, there) =>
      if other = number && !(keepsOlder g) && w.linking.isNone then
        c.say (filled "% and % are the same file" [inQuotes t.source, inQuotes t.target])
        return false
      if there.kind = .directory then
        c.say (filled "cannot overwrite directory % with non-directory" [inQuotes t.target])
        return false
      match ← makeWay c g w node there t with
      | .error isDone => return isDone
      | .ok older? =>
        if older?.isNone then
          let isLink := match node.kind with
            | .link _ => true
            | _ => false
          if w.removesFirst || isLink then
            let m ← get
            set (withoutPlace m ((m.findName t.target).toOption.getD []))
          else if w.linking.isSome then
            return ← c.refuse (filled "cannot create % % to %"
              [(if w.linking = some 's' then "symbolic link" else "hard link").toList,
                inQuotes t.target, inQuotes t.source]) .alreadyThere
        put older?

/-- Copies a file, or a directory with all that is in it. The result says whether that went well. The
number bounds how deep directories are. -/
def copyPath (c : Call) (g : Given) (w : Way) : Nat → Transfer → Action Bool
  | 0, _ => return true
  | n + 1, t => do
    let m ← get
    let found := if w.keepsLinks then m.files.nodeNamed m.here t.source else m.nodeOf t.source
    match found with
    | .error e => c.refuse ("cannot stat ".toList ++ inQuotes t.source) e
    | .ok (number, node) =>
      if node.kind ≠ .directory then return ← copyFile c g w number node t
      if !w.isDeep then
        let before := if lastPart c.name = "install".toList then ""
          else "-r not specified; "
        c.say (before.toList ++ "omitting directory ".toList ++ inQuotes t.source)
        return false
      let source := (m.find t.source).toOption.getD []
      let there? := (m.nodeOf t.target).toOption
      if there?.any fun there => there.2.kind ≠ .directory then
        c.say (filled "cannot overwrite non-directory % with directory %"
          [inQuotes t.target, inQuotes t.source])
        return false
      if (m.find (withoutSlashes t.target)).toOption.any (source.isPrefixOf ·) then
        c.say (filled "cannot copy a directory, %, into itself, %"
          [inQuotes t.source, inQuotes t.target])
        return false
      if there?.isNone then
        let mode := if w.keepsFacts then node.mode else m.masked (node.mode &&& 0o777)
        match ← attemptWith fun m => m.added t.target .directory mode with
        | .ok () => if w.isShown then showTransfer "" t none
        | .error e =>
          return ← c.refuse ("cannot create directory ".toList ++ inQuotes t.target) e
      let names := (m.files.names source).reverse
      let results ← names.mapM fun name =>
        copyPath c g w n
          ⟨pathIn (withoutSlashes t.source) name, pathIn (withoutSlashes t.target) name⟩
      return results.all id

/-- What is done where something stands already, as options say it. -/
def replacingOf (g : Given) : Replacing :=
  match g.lastOf? ["f", "i", "n", "u", "update"] with
  | some "i" => .asking
  | some "n" => .never
  | some "u" => .ifOlder
  | some "update" =>
    match String.ofList ((g.value? "update").getD []) with
    | "none" => .never
    | "all" => .always
    | _ => .ifOlder
  | _ => .always

/-- Whether the option for what copies keep says something that it can. -/
def keptFacts : List String :=
  ["mode", "timestamps", "ownership", "links", "context", "xattr", "all"]

/-- Says which files are named more than once, and leaves them out. -/
def withoutRepeats (c : Call) : List Transfer → List Bytes → Action (List Transfer)
  | [], _ => return []
  | t :: rest, seen => do
    if seen.contains t.source then
      c.say (filled "warning: source file % specified more than once" [inQuotes t.source])
      withoutRepeats c rest seen
    else return t :: (← withoutRepeats c rest (t.source :: seen))

/-- Copies files. -/
def cp : Tool := fun c =>
  c.withOptions
    (Call.transferForms ++ olderForms ++
      [flag 'a' "archive", longFlag "attributes-only", longFlag "copy-contents", flag 'd' "",
        flag 'f' "force", flag 'i' "interactive", flag 'H' "", flag 'l' "link",
        flag 'L' "dereference", flag 'n' "no-clobber", flag 'P' "no-dereference", flag 'p' "",
        longVariant "preserve", longValued "no-preserve", longFlag "parents", flag 'R' "recursive",
        flag 'r' "", longVariant "reflink", longFlag "remove-destination", longValued "sparse",
        longFlag "strip-trailing-slashes", flag 's' "symbolic-link", flag 'u' "",
        longVariant "update", flag 'v' "verbose", flag 'x' "one-file-system", flag 'Z' ""]) fun g =>
  do
    match ((g.values "preserve").flatMap (·.splitOn ',')).find? fun text =>
        text ≠ [] && !keptFacts.any fun k => k.toList = text with
    | some text => return ← c.withChoice "--preserve" keptFacts text fun _ => pure 1
    | none => pure ()
    if g.has "n" then
      c.say ("warning: behavior of -n is non-portable and may change in future; " ++
        "use --update=none instead").toList
    let isDeep := g.has "R" || g.has "r" || g.has "a"
    let keepsLinks := match g.lastOf? ["a", "d", "H", "L", "P"] with
      | some "L" => false
      | some "H" | none => isDeep
      | some _ => true
    let w : Way :=
      { isDeep, keepsLinks
        keepsFacts := g.has "a" || g.has "p" || g.has "preserve"
        replacing := replacingOf g
        removesFirst := g.has "remove-destination" || (g.has "l" || g.has "s") && g.has "f"
        isShown := g.has "v"
        linking := if g.has "l" then some 'l' else if g.has "s" then some 's' else none
        hasContent := !g.has "attributes-only" }
    if g.has "parents" then
      let directory := (g.value? "t").getD (g.operands.getLast?.getD [])
      if !(← get).isDirectory directory then
        return ← c.misused 1 "with --parents, the destination must be a directory".toList
      let sources := if g.has "t" then g.operands else g.operands.dropLast
      let results ← sources.mapM fun source => do
        let target := pathIn directory source
        for outer in outerPaths target do
          let _ ← attemptWith fun m => m.added outer .directory (m.masked 0o777)
        copyPath c g w mostDirectories ⟨source, target⟩
      return Call.statusOf (results.all id)
    c.withTransfers g fun ts => do
      let ts ← withoutRepeats c ts []
      return Call.statusOf ((← ts.mapM (copyPath c g w mostDirectories)).all id)

/-! ## Moves -/

/-- Moves a file or a directory. The result says whether that went well. -/
def movePath (c : Call) (g : Given) (w : Way) (t : Transfer) : Action Bool := do
  let m ← get
  let cannot (e : SystemError) : Action Bool :=
    c.refuse (filled "cannot move % to %" [inQuotes t.source, inQuotes t.target]) e
  let found : Except SystemError (Place × Nat × Node) := do
    let place ← m.findName t.source
    let (n, node) ← m.files.nodeNamed m.here t.source
    return (place, n, node)
  match found with
  | .error e => c.refuse ("cannot stat ".toList ++ inQuotes t.source) e
  | .ok (source, number, node) =>
    let isDirectory := node.kind = .directory
    let base := baseOf t.source
    if base = ['.'] || base = ['.', '.'] then
      return ← cannot (.other "Device or resource busy" 16)
    match m.findName (withoutSlashes t.target) with
    | .error e =>
      if t.target.getLast? ≠ some '/' && e = .notADirectory then
        c.refuse ("cannot stat ".toList ++ inQuotes t.target) e
      else cannot e
    | .ok target =>
      let move (older? : Option Bytes) : Action Bool := do
        modify fun m => { m with files := m.files.move source target }
        if w.isShown then showTransfer "renamed " t older?
        return true
      match m.files.number? target with
      | none =>
        if t.target.getLast? = some '/' && !isDirectory then return ← cannot .notADirectory
        if source.isPrefixOf target then
          c.say (filled "cannot move % to a subdirectory of itself, %"
            [inQuotes t.source, inQuotes t.target])
          return false
        move none
      | some other =>
        let there := m.files.nodes.getD other default
        if source = target || other = number then
          if !keepsOlder g || source = target then
            c.say (filled "% and % are the same file" [inQuotes t.source, inQuotes t.target])
            return false
        if there.kind = .directory && !isDirectory then
          c.say (filled "cannot overwrite directory % with non-directory" [inQuotes t.target])
          return false
        if there.kind ≠ .directory && isDirectory then
          c.say (filled "cannot overwrite non-directory % with directory %"
            [inQuotes t.target, inQuotes t.source])
          return false
        if isDirectory && source.isPrefixOf target then
          c.say (filled "cannot move % to a subdirectory of itself, %"
            [inQuotes t.source, inQuotes t.target])
          return false
        if isDirectory && m.files.names target ≠ [] then
          return ← c.refuse ("cannot overwrite ".toList ++ inQuotes t.target) .notEmpty
        match ← makeWay c g w node there t with
        | .error isDone => return isDone
        | .ok older? => move older?

/-- Moves files. -/
def mv : Tool := fun c =>
  c.withOptions
    (Call.transferForms ++ olderForms ++
      [flag 'f' "force", flag 'i' "interactive", flag 'n' "no-clobber",
        longFlag "strip-trailing-slashes", longFlag "no-copy", flag 'u' "", longVariant "update",
        flag 'v' "verbose", flag 'Z' ""]) fun g => do
    let w : Way :=
      { isDeep := true, keepsLinks := true, keepsFacts := true, replacing := replacingOf g
        removesFirst := false, isShown := g.has "v", linking := none, hasContent := true }
    c.withTransfers g fun ts => do
      return Call.statusOf ((← ts.mapM (movePath c g w)).all id)

/-! ## Installation -/

/-- Copies files with new permissions, or makes directories. -/
def install : Tool := fun c =>
  c.withOptions
    (Call.transferForms ++ olderForms ++
      [flag 'c' "", flag 'C' "compare", flag 'd' "directory", flag 'D' "", valued 'g' "group",
        valued 'm' "mode", valued 'o' "owner", flag 'p' "preserve-timestamps", flag 's' "strip",
        flag 'v' "verbose"]) fun g => do
    let m ← get
    let text := (g.value? "m").getD "755".toList
    match permissions? 0 (g.has "d") text 0 with
    | none => c.fail 1 ("invalid mode ".toList ++ inSingleQuotes text)
    | some mode =>
      let tell (path : Bytes) : Action Unit := do
        if g.has "v" then
          print (c.name ++ ": creating directory ".toList ++ inQuotes path ++ ['\n'])
      if g.has "d" then
        if g.operands = [] then return ← c.misused 1 "missing file operand".toList
        return ← Call.forEach g.operands (makeDirectory c true tell mode)
      let w : Way :=
        { isDeep := false, keepsLinks := false, keepsFacts := g.has "p", replacing := .always
          removesFirst := true, isShown := g.has "v", linking := none, hasContent := true }
      if g.has "D" then
        let wanted := match g.value? "t" with
          | some directory => directory
          | none => if g.operands.length < 2 then [] else
            directoryOf (g.operands.getLast?.getD [])
        if wanted ≠ [] && !m.isDirectory wanted then
          let _ ← makeDirectory c true tell (m.masked 0o777) wanted
      c.withTransfers g fun ts => do
        let results ← ts.mapM fun t => do
          let isDone ← copyPath c g w mostDirectories t
          if isDone then
            modify fun m =>
              match m.nodeOf t.target with
              | .ok (n, _) =>
                { m with files := m.files.modify n fun node => { node with mode } }
              | .error _ => m
          return isDone
        return Call.statusOf (results.all id)

end TokenConformance.Sandbox.Shell.Tool
