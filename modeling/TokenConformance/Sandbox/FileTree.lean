import TokenConformance.Failure
import TokenConformance.Sandbox.Text.Bytes

/-! # A tree of files in memory

* `SystemError.nameTooLong` and so on: the errors that a tree of files and the programs in it add to
  those of `SystemError`.
* `Node`: what a name in a directory stands for; several names may stand for the same node.
* `FileTree`: the nodes of a tree with the places where they are.
* `FileTree.walk`, `FileTree.find`, `FileTree.findForWriting`: the place to which a path leads.
* `FileTree.place`, `FileTree.remove`, `FileTree.move`: the tree with other places.
* `FileTree.read`, `FileTree.write`: what an operating system does for a path.
* `FileTree.ofFiles`: the tree of some files in a working directory.

A place is the list of the names that lead to it from the top of the tree.
-/

namespace TokenConformance.SystemError

/-- A name, or a whole path, is longer than names can be. -/
def nameTooLong : SystemError := .other "File name too long" 36

/-- A path leads through more links than are followed. -/
def tooManyLinks : SystemError := .other "Too many levels of symbolic links" 40

/-- Something is there already. -/
def alreadyThere : SystemError := .other "File exists" 17

/-- A directory has something in it. -/
def notEmpty : SystemError := .other "Directory not empty" 39

/-- The operation makes no sense for what it is used on. -/
def invalid : SystemError := .other "Invalid argument" 22

/-- The operation is not allowed for anyone. -/
def notPermitted : SystemError := .other "Operation not permitted" 1

/-- A descriptor is not open, or not open for this. -/
def badDescriptor : SystemError := .other "Bad file descriptor" 9

/-- There is no device behind a name. -/
def noDevice : SystemError := .other "No such device or address" 6

/-- There is no room for what is written. -/
def noSpace : SystemError := .other "No space left on device" 28

/-- A file that may be run is no program. -/
def notAProgram : SystemError := .other "Exec format error" 8

/-- The text without the number of the error. -/
def description : SystemError → String
  | notFound => "No such file or directory"
  | permissionDenied => "Permission denied"
  | notADirectory => "Not a directory"
  | isADirectory => "Is a directory"
  | other text _ | unusable text => text

end TokenConformance.SystemError

namespace TokenConformance.Sandbox

open Sandbox.Text (Bytes)

/-- The names that lead to something from the top of a tree. -/
abbrev Place := List Bytes

/-- A device. -/
inductive Device where
  /-- There is nothing to read, and what is written is lost. -/
  | null
  /-- There are only zeros to read, and what is written is lost. -/
  | zero
  /-- There are only zeros to read, and nothing can be written. -/
  | full
  | terminal
deriving DecidableEq, Inhabited

/-- What stands at a place. -/
inductive Kind where
  | file (content : Bytes)
  /-- A program that belongs to the system. -/
  | program (name : Bytes)
  | directory
  | link (target : Bytes)
  /-- A pipe with a name, and what has not been read from it yet. -/
  | pipe (unread : Bytes)
  | device (d : Device)
deriving DecidableEq, Inhabited

/-- What stands at a place, with who may use it and when it was changed. Time is counted in seconds
since the beginning of 1970, and every change takes one. -/
structure Node where
  kind : Kind
  mode : Nat
  time : Nat
deriving DecidableEq, Inhabited

/-- The nodes of a tree with their places. -/
structure FileTree where
  nodes : Array Node
  entries : List (Place × Nat)
  /-- Where relative paths start for those who have no directory of their own. -/
  home : Place
  time : Nat
deriving Inhabited

/-! ## Paths -/

/-- The parts of a path between its slashes. -/
def pathParts (path : Bytes) : List Bytes := path.splitOn '/'

/-- Whether a path starts at the top of the tree. -/
def isAbsolute (path : Bytes) : Bool := path.head? = some '/'

/-- Whether a part of a path leaves the place where it is. -/
def isIdle (part : Bytes) : Bool := part = [] || part = ['.']

/-- Whether a part of a path leads to the directory around a place. -/
def isUpwards (part : Bytes) : Bool := part = ['.', '.']

/-- How long a name may be. -/
def longestName : Nat := 255

/-- How long a path may be. -/
def longestPath : Nat := 4095

/-- How many links are followed on one path. -/
def mostLinks : Nat := 40

/-- The path of a place. -/
def pathOf (place : Place) : Bytes := if place = [] then ['/'] else place.flatMap ('/' :: ·)

namespace FileTree

/-- The number of the node at a place. -/
def number? (t : FileTree) (place : Place) : Option Nat := t.entries.lookup place

/-- The node at a place. -/
def node? (t : FileTree) (place : Place) : Option Node := (t.number? place).bind (t.nodes[·]?)

/-- What stands at a place. -/
def kind? (t : FileTree) (place : Place) : Option Kind := (t.node? place).map (·.kind)

/-- Whether a place is a directory. -/
def isDirectory (t : FileTree) (place : Place) : Bool := t.kind? place = some .directory

/-- Where the parts of a path lead from a place. Every part but the last must lead to a directory.
The number bounds how many links are followed; one at the end is followed if that is wanted. -/
def walk (t : FileTree) (followsEnd : Bool) : Nat → Place → List Bytes → Except SystemError Place
  | _, here, [] => .ok here
  | links, here, part :: rest =>
    match t.kind? here with
    | none => .error .notFound
    | some .directory =>
      if isIdle part then t.walk followsEnd links here rest
      else if isUpwards part then t.walk followsEnd links here.dropLast rest
      else if part.length > longestName then .error .nameTooLong
      else
        match t.kind? (here ++ [part]), links with
        | some (.link target), links =>
          if rest = [] && !followsEnd then .ok (here ++ [part])
          else
            match links with
            | 0 => .error .tooManyLinks
            | links + 1 =>
              t.walk followsEnd links (if isAbsolute target then [] else here)
                (pathParts target ++ rest)
        | _, links => t.walk followsEnd links (here ++ [part]) rest
    | some _ => .error .notADirectory
termination_by links _ parts => (links, parts.length)

/-- The place where a path starts. -/
def startOf (here : Place) (path : Bytes) : Place := if isAbsolute path then [] else here

/-- Refuses a path that no path can be. -/
def checkPath (path : Bytes) : Except SystemError Unit :=
  if path = [] then .error .notFound
  else if path.length > longestPath then .error .nameTooLong
  else .ok ()

/-- The place to which a path leads from a directory. -/
def find (t : FileTree) (here : Place) (path : Bytes) : Except SystemError Place := do
  checkPath path
  t.walk true mostLinks (startOf here path) (pathParts path)

/-- The place that a path names, which may be the place of a link. -/
def findName (t : FileTree) (here : Place) (path : Bytes) : Except SystemError Place := do
  checkPath path
  t.walk false mostLinks (startOf here path) (pathParts path)

/-- The node to which a path leads, with its number. -/
def nodeOf (t : FileTree) (here : Place) (path : Bytes) : Except SystemError (Nat × Node) := do
  let place ← t.find here path
  match t.number? place with
  | some n => return (n, t.nodes.getD n default)
  | none => throw .notFound

/-- The node that a path names, with its number. It may be a link. -/
def nodeNamed (t : FileTree) (here : Place) (path : Bytes) : Except SystemError (Nat × Node) := do
  let place ← t.findName here path
  match t.number? place with
  | some n => return (n, t.nodes.getD n default)
  | none => throw .notFound

/-- Whether nothing can be added to a directory, as its names stand for what the system does. -/
def isFixed (place : Place) : Bool := place.head? = some "proc".toList

/-- The place of a file that is to be written, which may be missing. Its directory must be there. The
number bounds how many links are followed. -/
def findForWriting (t : FileTree) : Nat → Place → Bytes → Except SystemError Place
  | links, here, path => do
    checkPath path
    let parts := pathParts path
    let named := (parts.reverse.dropWhile (· = [])).reverse
    match named.getLast? with
    | none => throw .isADirectory
    | some name =>
      let around ← t.walk true mostLinks (startOf here path) named.dropLast
      match t.kind? around with
      | none => throw .notFound
      | some .directory =>
        if isIdle name || isUpwards name || named.length < parts.length then throw .isADirectory
        if name.length > longestName then throw .nameTooLong
        match t.kind? (around ++ [name]), links with
        | some .directory, _ => throw .isADirectory
        | some (.link _), 0 => throw .tooManyLinks
        | some (.link target), links + 1 => t.findForWriting links around target
        | none, _ => if isFixed around then throw .notFound else return around ++ [name]
        | _, _ => return around ++ [name]
      | some _ => throw .notADirectory

/-- The names of what stands in a directory, the newest first. -/
def names (t : FileTree) (place : Place) : List Bytes :=
  t.entries.filterMap fun (p, _) => if p ≠ [] && p.dropLast = place then p.getLast? else none

/-- The places in and below a directory, which is one of them. -/
def below (t : FileTree) (place : Place) : List (Place × Nat) :=
  t.entries.filter fun e => place.isPrefixOf e.1

/-! ## Changes -/

/-- The tree with a node at a place where nothing stands. -/
def place (t : FileTree) (place : Place) (n : Nat) : FileTree :=
  { t with entries := (place, n) :: t.entries.filter fun e => e.1 ≠ place }

/-- The tree with a new node at a place where nothing stands. -/
def add (t : FileTree) (place : Place) (kind : Kind) (mode : Nat) : FileTree :=
  let t := t.place place t.nodes.size
  { t with nodes := t.nodes.push ⟨kind, mode, t.time⟩, time := t.time + 1 }

/-- The tree with a node that has changed. -/
def modify (t : FileTree) (n : Nat) (f : Node → Node) : FileTree :=
  { t with nodes := t.nodes.modify n f }

/-- The tree with another content of a file. -/
def setContent (t : FileTree) (n : Nat) (content : Bytes) : FileTree :=
  let t := t.modify n fun node => { node with kind := .file content, time := t.time }
  { t with time := t.time + 1 }

/-- The tree without what stands at a place and below it. -/
def remove (t : FileTree) (place : Place) : FileTree :=
  { t with entries := t.entries.filter fun e => !place.isPrefixOf e.1 }

/-- The tree with all that stands at a place and below it at another place. -/
def move (t : FileTree) (source target : Place) : FileTree :=
  let (moved, others) := (t.remove target).entries.partition fun e => source.isPrefixOf e.1
  { t with entries := moved.map (fun e => (target ++ e.1.drop source.length, e.2)) ++ others }

/-- How many places a node has. -/
def linkCount (t : FileTree) (n : Nat) : Nat := (t.entries.filter fun e => e.2 = n).length

/-- The permissions of a directory that nothing is said about. -/
def directoryMode : Nat := 0o755

/-- The permissions of a file that nothing is said about. -/
def fileMode : Nat := 0o644

/-- The tree with a directory at a place, and with those around it. -/
def withDirectory (t : FileTree) (place : Place) : FileTree :=
  (List.range (place.length + 1)).foldl
    (fun t n =>
      if (t.number? (place.take n)).isSome then t
      else t.add (place.take n) .directory directoryMode) t

/-- The tree with a file at a place, and with the directories around it. -/
def withFile (t : FileTree) (place : Place) (content : Bytes) : FileTree :=
  let t := t.withDirectory place.dropLast
  match t.number? place with
  | some n => t.setContent n content
  | none => t.add place (.file content) fileMode

/-! ## Whole files -/

/-- The content of what can be read as a whole. -/
def Kind.content? : Kind → Except SystemError Bytes
  | .file content => .ok content
  | .directory => .error .isADirectory
  | _ => .ok []

/-- The content of the file to which a path leads. -/
def read (t : FileTree) (path : Bytes) : Except SystemError Bytes := do
  Kind.content? (← t.nodeOf t.home path).2.kind

/-- The tree with a file that is written anew. -/
def write (t : FileTree) (path content : Bytes) : Except SystemError FileTree := do
  let place ← t.findForWriting mostLinks t.home path
  match t.number? place with
  | some n =>
    match (t.nodes.getD n default).kind with
    | .device .full => throw .noSpace
    | .device .terminal => throw .noDevice
    | .device _ => return t
    | .pipe unread => return t.modify n fun node => { node with kind := .pipe (unread ++ content) }
    | _ => return t.setContent n content
  | none => return t.add place (.file content) fileMode

/-- What has been written to an open descriptor through its place. -/
def writtenTo (t : FileTree) (descriptor : Place) : Bytes :=
  match t.kind? descriptor with
  | some (.pipe unread) => unread
  | _ => []

/-! ## Starting -/

/-- A place that is given by a text. -/
def placeOf (path : String) : Place := ((pathParts path.toList).filter fun p => !isIdle p)

/-- The working directory. -/
def workingDirectory : Place := placeOf "/tmp/work"

/-- The directories that every system has. -/
def systemDirectories : List String :=
  ["/usr/bin", "/usr/sbin", "/usr/lib", "/usr/local/bin", "/usr/share", "/etc", "/dev", "/home",
    "/mnt", "/opt", "/proc/self/fd", "/root", "/run", "/srv", "/sys", "/var/tmp", "/var/log"]

/-- The devices that every system has. -/
def systemDevices : List (String × Device) :=
  [("/dev/null", .null), ("/dev/zero", .zero), ("/dev/full", .full), ("/dev/tty", .terminal)]

/-- The links that every system has. -/
def systemLinks : List (String × String) :=
  [("/bin", "usr/bin"), ("/sbin", "usr/sbin"), ("/lib", "usr/lib"), ("/dev/fd", "/proc/self/fd"),
    ("/dev/stdin", "/proc/self/fd/0"), ("/dev/stdout", "/proc/self/fd/1"),
    ("/dev/stderr", "/proc/self/fd/2")]

/-- The place of an open descriptor. -/
def descriptorPlace (descriptor : Nat) : Place :=
  placeOf ("/proc/self/fd/" ++ toString descriptor)

/-- The time at which a system starts. -/
def startTime : Nat := 1767225600

/-- The tree of a system with some programs and an empty working directory. -/
def system (programs : List Bytes) : FileTree :=
  let t : FileTree := ⟨#[], [], workingDirectory, startTime⟩
  let t := systemDirectories.foldl (fun t path => t.withDirectory (placeOf path)) t
  let t := systemDevices.foldl (fun t (path, d) => t.add (placeOf path) (.device d) 0o666) t
  let t := systemLinks.foldl
    (fun t (path, target) => t.add (placeOf path) (.link target.toList) 0o777) t
  let t := (t.add (descriptorPlace 0) (.device .null) 0o666).add (descriptorPlace 1) (.pipe []) 0o600
  let t := t.add (descriptorPlace 2) (.pipe []) 0o600
  let t := programs.foldl
    (fun t name => t.add (placeOf "/usr/bin" ++ [name]) (.program name) 0o755) t
  let t := t.withFile (placeOf "/etc/passwd") "root:x:0:0:root:/root:/bin/bash\n".toList
  t.withDirectory workingDirectory

/-- The place that a path names below a directory when nothing is in the way. -/
def plainPlace (here : Place) (path : Bytes) : Place :=
  (pathParts path).foldl
    (fun here part => if isIdle part then here else if isUpwards part then here.dropLast
      else here ++ [part]) (startOf here path)

/-- The tree of a system with some programs, and some files in the working directory. A path that
ends in a slash is a directory. -/
def ofFiles (programs : List Bytes) (files : List (Bytes × Bytes)) : FileTree :=
  files.foldl
    (fun t f =>
      if f.1.getLast? = some '/' then t.withDirectory (plainPlace t.home f.1)
      else t.withFile (plainPlace t.home f.1) f.2) (system programs)

end FileTree

end TokenConformance.Sandbox
