import TokenConformance.Sandbox.Calendar.Reader
import TokenConformance.Sandbox.Shell.Tool.Placing

/-! # Programs that make files and change what is known about them

* `mkdir`: makes directories; `mkfifo`, `mknod`: make pipes and devices.
* `touch`: makes files, or makes them look changed.
* `ln`, `link`: give files more names.
* `chmod`, `chown`, `chgrp`: change permissions and owners.
-/

namespace TokenConformance.Sandbox.Shell.Tool

open Sandbox.Text (Bytes)
open Sandbox (Place Kind Node)
open Calendar (Moment)

/-! ## Directories, pipes and devices -/

/-- The paths of the directories around the end of a path, the outermost first. -/
def outerPaths (path : Bytes) : List Bytes :=
  let bare := withoutSlashes path
  (List.range bare.length).filterMap fun i =>
    if 0 < i && bare[i]? = some '/' && bare[i - 1]? ≠ some '/' then some (bare.take i) else none

/-- What is said about a directory that cannot be made. -/
def directoryFault (path : Bytes) : Bytes := "cannot create directory ".toList ++ inQuotes path

/-- Makes a directory, and those around it if that is wanted, and tells whether that was possible. -/
def makeDirectory (c : Call) (hasOuter : Bool) (tell : Bytes → Action Unit) (mode : Nat)
    (path : Bytes) : Action Bool := do
  if hasOuter then
    for outer in outerPaths path do
      let m ← get
      match m.nodeOf outer with
      | .ok (_, node) =>
        if node.kind ≠ .directory then
          return ← c.refuse (directoryFault outer) .notADirectory
      | .error _ =>
        match ← attemptWith fun m => m.added outer .directory (m.masked 0o777 ||| 0o300) with
        | .ok () => tell outer
        | .error e => return ← c.refuse (directoryFault outer) e
    if (← get).isDirectory path then return true
  match ← attemptWith fun m => m.added path .directory mode with
  | .ok () =>
    tell path
    return true
  | .error e => c.refuse (directoryFault path) e

/-- Makes directories. -/
def mkdir : Tool := fun c =>
  c.withOptions
    [valued 'm' "mode", flag 'p' "parents", flag 'v' "verbose", flag 'Z' ""] fun g => do
    if g.operands = [] then return ← c.misused 1 "missing operand".toList
    let m ← get
    let mode? := match g.value? "m" with
      | some text => permissions? m.mask true text 0o777
      | none => some (m.masked 0o777)
    match mode? with
    | none => c.fail 1 ("invalid mode ".toList ++ inSingleQuotes ((g.value? "m").getD []))
    | some mode =>
      let tell (path : Bytes) : Action Unit := do
        if g.has "v" then
          print (c.name ++ ": created directory ".toList ++ inQuotes path ++ ['\n'])
      Call.forEach g.operands (makeDirectory c (g.has "p") tell mode)

/-- The permissions that an option gives to something new, unless they make no sense. -/
def givenMode? (m : Machine) (g : Given) : Option Nat :=
  match g.value? "m" with
  | some text => permissions? m.mask false text 0o666
  | none => some (m.masked 0o666)

/-- Makes pipes with names. -/
def mkfifo : Tool := fun c => c.withOptions [valued 'm' "mode"] fun g => do
  match givenMode? (← get) g with
  | none => c.fail 1 "invalid mode".toList
  | some mode =>
    c.forSome g.operands fun path => do
      match ← attemptWith fun m => m.added path (.pipe []) mode with
      | .ok () => return true
      | .error e => c.refuse ("cannot create fifo ".toList ++ inQuotes path) e

/-- The device that a pair of numbers stands for. -/
def deviceOf (major minor : Bytes) : Sandbox.Device :=
  match digitsValue major, digitsValue minor with
  | 1, 5 => .zero
  | 1, 7 => .full
  | _, _ => .null

/-- Makes pipes and devices. -/
def mknod : Tool := fun c => c.withOptions [valued 'm' "mode"] fun g => do
  let missing (text : Bytes) : Action Nat :=
    c.misused 1 ("missing operand after ".toList ++ inQuotes text)
  let extra (text : Bytes) : Action Nat :=
    c.misused 1 ("extra operand ".toList ++ inQuotes text)
  let make (path : Bytes) (kind : Kind) : Action Nat := do
    match givenMode? (← get) g with
    | none => c.fail 1 "invalid mode".toList
    | some mode =>
      match ← attemptWith fun m => m.added path kind mode with
      | .ok () => return 0
      | .error e => c.fail 1 (path ++ ": ".toList ++ describe e)
  match g.operands with
  | [] => c.misused 1 "missing operand".toList
  | [path] => missing path
  | [path, ['p']] => make path (.pipe [])
  | _ :: ['p'] :: more :: _ => extra more
  | [_, kind] => do
    c.say ("missing operand after ".toList ++ inQuotes kind)
    complain "Special files require major and minor device numbers.".toList
    complain c.hint
    return 1
  | [_, _, major] => missing major
  | [path, kind, major, minor] =>
    if kind = ['c'] || kind = ['u'] || kind = ['b'] then make path (.device (deviceOf major minor))
    else c.misused 1 ("invalid device type ".toList ++ inQuotes kind)
  | _ :: _ :: _ :: _ :: more :: _ => extra more

/-! ## Times -/

/-- Makes files, or makes them look changed. -/
def touch : Tool := fun c =>
  c.withOptions
    [flag 'a' "", flag 'c' "no-create", valued 'd' "date", flag 'f' "", flag 'h' "no-dereference",
      flag 'm' "", valued 'r' "reference", valued 't' "", longValued "time"] fun g => do
    let m ← get
    let now : Int := m.files.time
    let read? (o : String × Bytes) : Option Int :=
      if o.1 = "t" then Moment.readDigits? now o.2 else Moment.read? now o.2
    let given := g.options.filter fun o => o.1 = "d" || o.1 = "t"
    match given.find? fun o => (read? o).isNone with
    | some (_, text) => return ← c.fail 1 ("invalid date format ".toList ++ inSingleQuotes text)
    | none => pure ()
    let time? : Except (Bytes × SystemError) (Option Nat) := match g.value? "r" with
      | some path =>
        match m.nodeOf path with
        | .ok (_, node) => .ok (some node.time)
        | .error e => .error (path, e)
      | none => .ok ((given.getLast?.bind read?).map Int.toNat)
    match time? with
    | .error (path, e) =>
      c.fail 1 (filled "failed to get attributes of %: %" [inQuotes path, describe e])
    | .ok time? =>
      if g.operands = [] then return ← c.misused 1 "missing file operand".toList
      Call.forEach g.operands fun path => do
        if path = ['-'] then return true
        let m ← get
        let stamp (m : Machine) (n : Nat) : Machine :=
          let time := time?.getD m.files.time
          let files := m.files.modify n fun node => { node with time }
          { m with files := { files with time := files.time + 1 } }
        match m.nodeOf path with
        | .ok (n, _) =>
          set (stamp m n)
          return true
        | .error e =>
          if g.has "c" && e = .notFound then return true
          if path.getLast? = some '/' then
            return ← c.refuse ("setting times of ".toList ++ inQuotes path) e
          match m.findForWriting path with
          | .ok place =>
            let files := m.files.add place (.file []) (m.masked 0o666)
            set (stamp { m with files } (files.nodes.size - 1))
            return true
          | .error e => c.refuse ("cannot touch ".toList ++ inQuotes path) e

/-! ## Names -/

/-- A name for what a file was before another one takes its place. -/
def olderName (m : Machine) (g : Given) (path : Bytes) : Bytes :=
  let numbered := (g.value? "backup").any fun kind =>
    ["numbered", "t"].any fun k => k.toList = kind
  let name (i : Nat) : Bytes := path ++ ".~".toList ++ Bytes.ofInt i ++ ['~']
  if numbered then
    let i := ((List.range 100).find? fun i => (m.kindNamed? (name (i + 1))).isNone).getD 0
    name (i + 1)
  else path ++ ((g.value? "S").getD ['~'])

/-- Whether files are kept under other names when others take their places. -/
def keepsOlder (g : Given) : Bool :=
  (g.has "b" || g.has "backup" || g.has "S") &&
    !(g.value? "backup").any fun kind => ["none", "off"].any fun k => k.toList = kind

/-- The options for keeping files under other names. -/
def olderForms : List OptionForm :=
  [flag 'b' "", longVariant "backup", valued 'S' "suffix"]

/-- The machine in which the file at the end of a path has another name. -/
def withOlder (m : Machine) (path older : Bytes) : Except SystemError Machine := do
  let place ← m.findName path
  let other ← m.findName older
  return { m with files := m.files.move place other }

/-- The path to a target from the directory of a link. -/
def linkPath (m : Machine) (link target : Bytes) : Bytes :=
  match canonical m .none (directoryOf link), canonical m .none target with
  | .ok start, .ok goal => relativePath start goal
  | _, _ => target

/-- Gives a file another name. The result says whether that was possible. -/
def linkOne (c : Call) (g : Given) (t : Transfer) : Action Bool := do
  let m ← get
  let isSoft := g.has "s"
  let noun := if isSoft then "symbolic link" else "hard link"
  let failed (e : SystemError) : Action Bool :=
    let after : Bytes := if isSoft && e ≠ .alreadyThere && t.source = [] then
        " -> ".toList ++ inQuotes t.source
      else []
    c.refuse (filled "failed to create % %" [noun.toList, inQuotes t.target] ++ after) e
  let source? : Except SystemError (Nat × Node) :=
    if isSoft then .ok (0, default)
    else if g.has "L" then m.nodeOf t.source
    else m.files.nodeNamed m.here t.source
  match source? with
  | .error e => c.refuse ("failed to access ".toList ++ inQuotes t.source) e
  | .ok (n, node) =>
    if !isSoft && node.kind = .directory then
      c.say (named t.source ++ ": hard link not allowed for directory".toList)
      return false
    let content := if g.has "r" then linkPath m t.target t.source else t.source
    if isSoft && content = [] then return ← failed .notFound
    let isThere := (m.kindNamed? t.target).isSome
    if isThere && m.kindNamed? t.target ≠ some .directory then
      let isSame := !isSoft && ((m.files.nodeNamed m.here t.target).toOption.map (·.1)) = some n
      if isSame && (g.has "f" || g.has "i") then
        c.say (filled "% and % are the same file" [inQuotes t.source, inQuotes t.target])
        return false
      if g.lastOf? ["f", "i"] = some "i" then
        if !(← c.agrees ("replace ".toList ++ inQuotes t.target)) then return false
      if keepsOlder g then
        match withOlder m t.target (olderName m g t.target) with
        | .ok m => set m
        | .error e => return ← failed e
      else if g.has "f" || g.has "i" then
        match m.findName t.target with
        | .ok place => set { m with files := m.files.remove place }
        | .error e => return ← failed e
    let made ← attemptWith fun m => do
      if isSoft then m.added t.target (.link content) 0o777
      else
        let place ← m.newPlace t.target
        return { m with files := m.files.place place n }
    match made with
    | .ok () =>
      if g.has "v" then
        let arrow := if isSoft then " -> " else " => "
        print (inQuotes t.target ++ arrow.toList ++ inQuotes content ++ ['\n'])
      return true
    | .error e => failed e

/-- Gives files more names. -/
def ln : Tool := fun c =>
  c.withOptions
    (Call.transferForms ++ olderForms ++
      [flag 'd' "directory", flag 'F' "", flag 'f' "force", flag 'i' "interactive",
        flag 'L' "logical", flag 'n' "no-dereference", flag 'P' "physical", flag 'r' "relative",
        flag 's' "symbolic", flag 'v' "verbose"]) fun g => do
    let m ← get
    let isLink (path : Bytes) : Bool :=
      match m.kindNamed? path with
      | some (.link _) => true
      | _ => false
    match g.operands with
    | [source] =>
      if g.has "t" then c.withTransfers g fun ts => do
        return Call.statusOf ((← ts.mapM (linkOne c g)).all id)
      else
        return Call.statusOf (← linkOne c g ⟨source, pathInto ['.'] source⟩)
    | [source, target] =>
      if g.has "n" && isLink target && !g.has "t" then
        return Call.statusOf (← linkOne c g ⟨source, target⟩)
      else c.withTransfers g fun ts => do
        return Call.statusOf ((← ts.mapM (linkOne c g)).all id)
    | _ => c.withTransfers g fun ts => do
        return Call.statusOf ((← ts.mapM (linkOne c g)).all id)

/-- Gives a file one more name. -/
def link : Tool := fun c => c.withOptions [] fun g => do
  match g.operands with
  | [] => c.misused 1 "missing operand".toList
  | [source] => c.misused 1 ("missing operand after ".toList ++ inQuotes source)
  | [source, target] =>
    let made ← attemptWith fun m => do
      let (n, node) ← m.files.nodeNamed m.here source
      if node.kind = .directory then throw .notPermitted
      return { m with files := m.files.place (← m.newPlace target) n }
    match made with
    | .ok () => return 0
    | .error e =>
      c.fail 1 (filled "cannot create link % to %: %"
        [inQuotes target, inQuotes source, describe e])
  | _ :: _ :: extra :: _ => c.misused 1 ("extra operand ".toList ++ inQuotes extra)

/-! ## Permissions and owners -/

/-- The paths of a directory and of all that is in it, or of something else alone. -/
def pathsBelow (m : Machine) (path : Bytes) : List Bytes :=
  match m.find path with
  | .error _ => [path]
  | .ok place =>
    let below := (m.files.below place).map fun e => e.1.drop place.length
    let sorted := below.mergeSort fun a b =>
      Bytes.isAtMost (Sandbox.pathOf a) (Sandbox.pathOf b)
    sorted.map fun rest => rest.foldl pathIn path

/-- Whether an argument of `chmod` that looks like an option stands for permissions. -/
def isTakenAway (argument : Bytes) : Bool :=
  match argument with
  | '-' :: c :: _ => c ∈ "rwxXstugoa,+=01234567".toList
  | _ => false

/-- Changes the permissions of a file and says so. -/
def changeMode (c : Call) (g : Given) (mode : Bytes) (bits? : Option Nat) (path : Bytes) :
    Action Bool := do
  let m ← get
  match m.nodeOf path with
  | .error e =>
    if g.has "f" then return false else c.refuse ("cannot access ".toList ++ inQuotes path) e
  | .ok (n, node) =>
    let isDirectory := node.kind = .directory
    let changed := permissions? m.mask isDirectory mode node.mode
    let kept := if isDirectory && (Sandbox.octal? mode).isSome && mode.length < 5 then
        node.mode &&& 0o6000
      else 0
    let after := bits?.getD (changed.getD node.mode ||| kept)
    set { m with files := m.files.modify n fun node => { node with mode := after } }
    let shown (mode : Nat) : Bytes :=
      Sandbox.octalDigits 4 mode ++ " (".toList ++ Sandbox.listed mode ++ [')']
    if after ≠ node.mode && (g.has "v" || g.has "c") then
      print (filled "mode of % changed from % to %\n"
        [inQuotes path, shown node.mode, shown after])
    else if g.has "v" then
      print (filled "mode of % retained as %\n" [inQuotes path, shown after])
    let unmasked := (permissions? 0 isDirectory mode node.mode).getD after
    if bits?.isNone && mode.head? = some '-' && after &&& (0o7777 - unmasked) ≠ 0 then
      c.say (filled "%: new permissions are %, not %"
        [path, Sandbox.listed after, Sandbox.listed unmasked])
      return false
    return true

/-- Changes permissions. -/
def chmod : Tool := fun c =>
  let taken := c.arguments.find? isTakenAway
  let c : Call := { c with arguments := c.arguments.filter fun a => some a ≠ taken }
  c.withOptions
    [flag 'c' "changes", flag 'f' "silent", longFlag "quiet", flag 'v' "verbose",
      flag 'R' "recursive", longValued "reference", longFlag "preserve-root",
      longFlag "no-preserve-root"] fun g => do
    let m ← get
    let apply (mode : Bytes) (bits? : Option Nat) (paths : List Bytes) : Action Nat :=
      let all := if g.has "R" then paths.flatMap (pathsBelow m) else paths
      Call.forEach all (changeMode c g mode bits?)
    match g.value? "reference" with
    | some path =>
      match m.nodeOf path with
      | .ok (_, node) =>
        if g.operands = [] then c.misused 1 "missing operand".toList
        else apply [] (some node.mode) g.operands
      | .error e =>
        c.fail 1 (filled "failed to get attributes of %: %" [inQuotes path, describe e])
    | none =>
      match taken.toList ++ g.operands with
      | [] => c.misused 1 "missing operand".toList
      | [mode] => c.misused 1 ("missing operand after ".toList ++ inSingleQuotes mode)
      | mode :: paths =>
        if (permissions? 0 false mode 0).isNone then
          c.misused 1 ("invalid mode: ".toList ++ inSingleQuotes mode)
        else apply mode none paths

/-- Whether a text names the user or the group, which is the only one. -/
def isOwner (text : Bytes) : Bool := text = "root".toList || text ≠ [] && text.all Char.isDigit

/-- Says that files belong to whom they have always belonged. -/
def changeOwner (noun : String) (isBoth : Bool) : Tool := fun c =>
  c.withOptions
    [flag 'c' "changes", flag 'f' "silent", longFlag "quiet", flag 'v' "verbose",
      flag 'R' "recursive", longValued "reference", flag 'h' "no-dereference",
      longFlag "dereference", longValued "from", flag 'H' "", flag 'L' "", flag 'P' ""] fun g => do
    let m ← get
    let apply (owner : Bytes) (paths : List Bytes) : Action Nat :=
      let all := if g.has "R" then paths.flatMap (pathsBelow m) else paths
      Call.forEach all fun path => do
        match m.files.nodeNamed m.here path with
        | .error e => c.refuse ("cannot access ".toList ++ inQuotes path) e
        | .ok _ =>
          if g.has "v" then
            let what := if isBoth then "ownership" else "group"
            print (filled "% of % retained as %\n" [what.toList, inQuotes path, owner])
          return true
    match g.value? "reference", g.operands with
    | some _, paths => apply "root:root".toList paths
    | none, [] => c.misused 1 "missing operand".toList
    | none, [owner] => c.misused 1 ("missing operand after ".toList ++ inSingleQuotes owner)
    | none, owner :: paths =>
      let parts := if isBoth then owner.splitOn ':' else [owner]
      let user := parts.headD []
      let group := (parts.drop 1).headD []
      if user ≠ [] && !isOwner user then
        c.fail 1 (filled "invalid %: %" [noun.toList, inSingleQuotes owner])
      else if group ≠ [] && !isOwner group then
        c.fail 1 (filled "invalid group: %" [inSingleQuotes owner])
      else apply owner paths

/-- Changes owners. -/
def chown : Tool := changeOwner "user" true

/-- Changes groups. -/
def chgrp : Tool := changeOwner "group" false

end TokenConformance.Sandbox.Shell.Tool
