import TokenConformance.Sandbox.Calendar.Format
import TokenConformance.Sandbox.Shell.Pattern
import TokenConformance.Sandbox.Shell.Tool.Amounts
import TokenConformance.Sandbox.Shell.Tool.Placing
import TokenConformance.Sandbox.Text.Version

/-! # Programs that list files

* `Entry`: a file in a list; `Listing`: how files are listed.
* `Listing.arranged`: names in columns or rows.
* `Listing.detailed`: a line for every file that tells all about it.
* `listing`: the program that lists files; `ls`, `dir` and `vdir` differ in how they do it.
-/

namespace TokenConformance.Sandbox.Shell.Tool

open Sandbox.Text (Bytes)
open Sandbox (Place Kind Node)

/-- A file in a list. -/
structure Entry where
  name : Bytes
  number : Nat
  node : Node
  /-- What stands where a link leads. -/
  goal : Option Kind
deriving Inhabited

/-- How the names in a list are arranged. -/
inductive Arrangement where
  | lines
  | columns
  | rows
  | commas
  | details
deriving DecidableEq, Inhabited

/-- How names are written. -/
inductive NameStyle where
  | plain
  | quoted
  | escaped
  | shellQuoted
  | alwaysQuoted
  | masked
deriving DecidableEq, Inhabited

/-- How files are listed. -/
structure Listing where
  arrangement : Arrangement
  style : NameStyle
  /-- The order: a key of `keys`. -/
  order : String
  isReversed : Bool
  showsHidden : Bool
  /-- Whether the directory itself and the one around it are shown. -/
  showsDots : Bool
  /-- Whether directories are listed themselves and not what is in them. -/
  isFlat : Bool
  isDeep : Bool
  followsLinks : Bool
  /-- Which things are marked after their names. -/
  marks : Option Char
  showsNumbers : Bool
  showsBlocks : Bool
  showsOwner : Bool
  showsGroup : Bool
  hasPlainOwners : Bool
  isShort : Bool
  isDecimal : Bool
  directoriesFirst : Bool
  width : Nat
  tab : Nat
  /-- What ends a line. -/
  mark : Char
  /-- The patterns of names that are never shown, and of those that count as hidden. -/
  ignored : List Bytes
  hidden : List Bytes
  /-- How times are written. -/
  time : Int → Bytes
deriving Inhabited

/-- The size of what stands at a place. -/
def sizeOf : Kind → Nat
  | .file content => content.length
  | .program _ => 35000
  | .directory => 4096
  | .link target => target.length
  | _ => 0

/-- How many blocks of 1024 bytes something takes. -/
def blocksOf : Kind → Nat
  | .file content => (content.length + 4095) / 4096 * 4
  | .program _ => 36
  | .directory => 4
  | _ => 0

/-- The letter that tells what something is. -/
def kindLetter : Kind → Char
  | .file _ | .program _ => '-'
  | .directory => 'd'
  | .link _ => 'l'
  | .pipe _ => 'p'
  | .device _ => 'c'

/-- A name in double quotes with its escapes. -/
def escapedName (isQuoted : Bool) (name : Bytes) : Bytes :=
  name.flatMap fun c =>
    if c = '\\' then ['\\', '\\']
    else if isQuoted && c = '"' then ['\\', '"']
    else if !isQuoted && c = ' ' then ['\\', ' ']
    else if isShowable c then [c] else escapeOf c

namespace Listing

/-- The orders that are known by words. -/
def keys : List (String × String) :=
  [("none", "U"), ("time", "t"), ("size", "S"), ("extension", "X"), ("version", "v"),
    ("width", "width")]

/-- A name as it is written. -/
def shown (l : Listing) (name : Bytes) : Bytes :=
  match l.style with
  | .plain => name
  | .quoted => '"' :: escapedName true name ++ ['"']
  | .escaped => escapedName false name
  | .shellQuoted => named name
  | .alwaysQuoted => inQuotes name
  | .masked => name.map fun c => if isShowable c then c else '?'

/-- The character after a name that tells what something is. -/
def markOf (l : Listing) (e : Entry) : Bytes :=
  let of (kind : Kind) (mode : Nat) : Bytes :=
    match l.marks, kind with
    | none, _ => []
    | some _, .directory => ['/']
    | some 'p', _ => []
    | some _, .link _ => ['@']
    | some _, .pipe _ => ['|']
    | some 'F', .file _ | some 'F', .program _ => if mode &&& 0o111 ≠ 0 then ['*'] else []
    | some _, _ => []
  of e.node.kind e.node.mode

/-- How many blocks an entry takes, as it is written. -/
def blockText (l : Listing) (kind : Kind) : Bytes :=
  if l.isShort then shortSize l.isDecimal (blocksOf kind * 1024) else Bytes.ofInt (blocksOf kind)

/-- What stands before a name in a list, and the name. -/
def cell (l : Listing) (numberWidth blockWidth : Nat) (e : Entry) : Bytes :=
  (if l.showsNumbers then paddedNumber numberWidth e.number ++ [' '] else []) ++
    (if l.showsBlocks then padded blockWidth (l.blockText e.node.kind) ++ [' '] else []) ++
    l.shown e.name ++ l.markOf e

/-! ## Orders -/

/-- The ending of a name with its dot. -/
def endingOf (name : Bytes) : Bytes :=
  if '.' ∈ name then '.' :: (name.reverse.takeWhile (· ≠ '.')).reverse else []

/-- Whether an entry may come before another one. -/
def isBefore (l : Listing) (a b : Entry) : Bool :=
  let byName := Bytes.isAtMost a.name b.name
  let first (o : Ordering) : Bool :=
    match o with
    | .lt => true
    | .gt => false
    | .eq => byName
  match l.order with
  | "t" => first (compare b.node.time a.node.time)
  | "S" => first (compare (sizeOf b.node.kind) (sizeOf a.node.kind))
  | "X" =>
    let (x, y) := (endingOf a.name, endingOf b.name)
    if x = y then byName else Bytes.isAtMost x y
  | "v" => first (Text.Version.compareNames a.name b.name)
  | "width" => first (compare a.name.length b.name.length)
  | _ => byName

/-- Entries in their order. -/
def sorted (l : Listing) (es : List Entry) : List Entry :=
  let es := if l.order = "U" then es else es.mergeSort l.isBefore
  let es := if l.isReversed && l.order ≠ "U" then es.reverse else es
  if l.directoriesFirst then
    let isDirectory (e : Entry) : Bool := (e.goal.getD e.node.kind) = .directory
    let (directories, others) := es.partition isDirectory
    directories ++ others
  else es

/-! ## Arrangements -/

/-- The blanks from one column to another one. The number bounds how many there are. -/
def indent (tab : Nat) : Nat → Nat → Nat → Bytes
  | 0, _, _ => []
  | n + 1, start, stop =>
    if stop ≤ start then []
    else if tab ≠ 0 && (start + 1) / tab < stop / tab then
      '\t' :: indent tab n (start + tab - start % tab) stop
    else ' ' :: indent tab n (start + 1) stop

/-- The widths of columns in which cells are put, each with the space after it but the last one. -/
def columnWidths (isByRow : Bool) (count : Nat) (widths : List Nat) : List Nat :=
  let rows := (widths.length + count - 1) / count
  (List.range count).map fun column =>
    let own := widths.zipIdx.filter fun (_, i) =>
      (if isByRow then i % count else i / rows) = column
    (own.map fun (w, _) => w + if column + 1 = count then 0 else 2).foldl max 3

/-- How many columns there can be. -/
def columnCount (isByRow : Bool) (width : Nat) (widths : List Nat) : Nat :=
  let most := min widths.length (max 1 (width / 3))
  let fits (count : Nat) : Bool := (columnWidths isByRow count widths).foldl (· + ·) 0 < width
  (((List.range most).map (· + 1)).reverse.find? fits).getD 1

/-- One row of cells. -/
def rowOf (tab : Nat) : Nat → List (Bytes × Nat) → Bytes
  | _, [] => []
  | _, [(text, _)] => text
  | column, (text, width) :: rest =>
    text ++ indent tab (width + 1) (column + text.length) (column + width) ++
      rowOf tab (column + width) rest

/-- Cells in columns or rows. -/
def inColumns (l : Listing) (isByRow : Bool) (cells : List Bytes) : Bytes :=
  let widths := cells.map List.length
  let count := if l.width = 0 then cells.length else columnCount isByRow l.width widths
  let sizes := columnWidths isByRow count widths
  let rows := (cells.length + count - 1) / count
  (List.range rows).flatMap fun row =>
    let own := (List.range count).filterMap fun column =>
      (cells[if isByRow then row * count + column else column * rows + row]?).map
        fun text => (text, sizes.getD column 0)
    rowOf l.tab 0 own ++ [l.mark]

/-- Cells with commas between them. -/
def withCommas (width : Nat) : Nat → Bool → List Bytes → Bytes
  | _, _, [] => []
  | column, isFirst, text :: rest =>
    let (between, column) : Bytes × Nat :=
      if isFirst then ([], 0)
      else if width = 0 || column + text.length + 2 < width then ([',', ' '], column + 2)
      else ([',', '\n'], 0)
    between ++ text ++ withCommas width (column + text.length) false rest

/-- Cells as they are arranged. -/
def arranged (l : Listing) (cells : List Bytes) : Bytes :=
  if cells = [] then []
  else
    match l.arrangement with
    | .columns => l.inColumns false cells
    | .rows => l.inColumns true cells
    | .commas => withCommas l.width 0 true cells ++ [l.mark]
    | _ => cells.flatMap (· ++ [l.mark])

/-- A column of texts that are as long as the longest one, with the blanks before or after them. -/
def column (isLeft : Bool) (texts : List Bytes) : List Bytes :=
  let width := (texts.map List.length).foldl max 0
  texts.map fun text =>
    if isLeft then text ++ List.replicate (width - text.length) ' ' else padded width text

/-- A line for every entry that tells all about it. The columns are as wide as they have to be for
some others as well. -/
def detailed (l : Listing) (linksOf : Nat → Nat) (cells : List Bytes) (others es : List Entry) :
    Bytes :=
  let all := es ++ others
  let owner : Bytes := if l.hasPlainOwners then ['0'] else "root".toList
  let links := column false (all.map fun e => Bytes.ofInt (linksOf e.number))
  let sizes := column false (all.map fun e =>
    match e.node.kind with
    | .device .null => "1, 3".toList
    | .device .zero => "1, 5".toList
    | .device .full => "1, 7".toList
    | .device .terminal => "5, 0".toList
    | kind => if l.isShort then shortSize l.isDecimal (sizeOf kind) else Bytes.ofInt (sizeOf kind))
  let owners := (if l.showsOwner then owner ++ [' '] else []) ++
    (if l.showsGroup then owner ++ [' '] else [])
  let before (e : Entry) : Bytes :=
    let own : Bytes := l.shown e.name ++ l.markOf e
    let i := es.findIdx fun other => decide (other.name = e.name)
    let whole : Bytes := cells.getD i own
    List.take (whole.length - own.length) whole
  let line (e : Entry) (links size : Bytes) : Bytes :=
    let mode := kindLetter e.node.kind :: Sandbox.listed e.node.mode
    let goal : Bytes := match e.node.kind with
      | .link target =>
        let mark := match e.goal with
          | some kind => markOf { l with marks := l.marks.filter (· = 'F') }
            { e with node := ⟨kind, 0o644, 0⟩ }
          | none => []
        " -> ".toList ++ l.shown target ++ mark
      | _ => []
    let own := l.shown e.name ++ (if goal = [] then l.markOf e else [])
    before e ++ mode ++ ' ' :: links ++ ' ' :: owners ++ size ++ ' ' :: l.time e.node.time ++ ' ' :: own ++ goal ++
      [l.mark]
  ((es.zip links).zip sizes).flatMap fun ((e, links), size) => line e links size

/-- The text of a list. Others are there that are not shown in it. -/
def text (l : Listing) (linksOf : Nat → Nat) (hasTotal : Bool) (others es : List Entry) : Bytes :=
  let widest (texts : List Bytes) : Nat := (texts.map List.length).foldl max 0
  let numberWidth := widest (es.map fun e => Bytes.ofInt e.number)
  let blockWidth := widest (es.map fun e => l.blockText e.node.kind)
  let isInColumns := l.arrangement = .columns || l.arrangement = .rows || l.arrangement = .commas
  let cells := es.map fun e =>
    if isInColumns && l.arrangement = .commas then l.cell 0 0 e else l.cell numberWidth blockWidth e
  let blocks := (es.map fun e => blocksOf e.node.kind).foldl (· + ·) 0
  let total : Bytes :=
    if hasTotal && (l.arrangement = .details || l.showsBlocks) then
      "total ".toList ++ (if l.isShort then shortSize l.isDecimal (blocks * 1024)
        else Bytes.ofInt blocks) ++ ['\n']
    else []
  total ++ if l.arrangement = .details then l.detailed linksOf cells others es else l.arranged cells

end Listing

/-! ## Directories -/

/-- How many names lead to the node with a number. -/
def linksTo (m : Machine) (n : Nat) : Nat :=
  match (m.files.nodes[n]?).map fun (node : Node) => node.kind with
  | some .directory =>
    match m.files.entries.find? fun e => e.2 = n with
    | some (place, _) =>
      2 + ((m.files.names place).filter fun name => m.files.isDirectory (place ++ [name])).length
    | none => 2
  | _ => max 1 (m.files.linkCount n)

/-- The entry for the file that a path names. -/
def entryOf (m : Machine) (followsLinks : Bool) (name path : Bytes) : Except SystemError Entry := do
  let (number, node) ← m.files.nodeNamed m.here path
  let goal? := (m.nodeOf path).toOption
  match followsLinks, goal? with
  | true, some (number, node) => return ⟨name, number, node, none⟩
  | true, none => throw .notFound
  | false, _ => return ⟨name, number, node, goal?.map (·.2.kind)⟩

/-- The entries of a directory. -/
def entriesOf (m : Machine) (l : Listing) (path : Bytes) (place : Place) : List Entry :=
  let names := m.files.names place
  let isIgnored (name : Bytes) : Bool :=
    let fits (pattern : Bytes) : Bool := Pattern.fits pattern name
    l.ignored.any fits || (!l.showsHidden && (name.head? = some '.' || l.hidden.any fits))
  let dots : List Bytes := if l.showsDots then [['.'], ['.', '.']] else []
  ((dots ++ names.filter fun name => !isIgnored name)).filterMap fun name =>
    match entryOf m l.followsLinks name (pathIn path name) with
    | .ok e => some e
    | .error _ => (entryOf m false name (pathIn path name)).toOption

/-- Lists a directory, and those below it if that is wanted. The number bounds how deep they are. -/
def listDirectory (l : Listing) (m : Machine) : Nat → Bool → Bytes → Bytes
  | 0, _, _ => []
  | n + 1, hasHeader, path =>
    let place := (m.find path).toOption.getD []
    let es := l.sorted (entriesOf m l path place)
    let header : Bytes := if hasHeader then l.shown path ++ [':', '\n'] else []
    let own := header ++ l.text (linksTo m) true [] es
    let inner := if l.isDeep then
        es.filter fun (e : Entry) =>
          e.node.kind = .directory && e.name ≠ ['.'] && e.name ≠ ['.', '.']
      else []
    own ++ inner.flatMap fun e => '\n' :: listDirectory l m n true (pathIn path e.name)

/-- The options for lists. -/
def listingForms : List OptionForm :=
  letters "cCfgGiklmnNopqrStuUvxXZ1" ++
    [flag 'a' "all", flag 'A' "almost-all", longFlag "author", flag 'b' "escape",
      longValued "block-size", flag 'B' "ignore-backups", longVariant "color", flag 'd' "directory",
      longVariant "classify", flag 'F' "", longFlag "file-type", longValued "format",
      longFlag "full-time", longFlag "group-directories-first", longFlag "no-group",
      flag 'h' "human-readable", longFlag "si", flag 'H' "dereference-command-line",
      longValued "hide", longVariant "hyperlink", longValued "indicator-style", longFlag "inode",
      valued 'I' "ignore", longFlag "kibibytes", flag 'L' "dereference", longFlag "numeric-uid-gid",
      longFlag "literal", longFlag "hide-control-chars", longFlag "show-control-chars",
      flag 'Q' "quote-name", longValued "quoting-style", longFlag "reverse", flag 'R' "recursive",
      flag 's' "size", longValued "sort", longValued "time", longValued "time-style",
      valued 'T' "tabsize", valued 'w' "width", longFlag "context", longFlag "zero"]

/-- How times are written. One that is not from the last half year has its year instead of the time of
day. -/
def timeText (g : Given) (now time : Int) : Bytes :=
  let isRecent := now - halfYear < time && time ≤ now
  let format : Bytes := match (g.value? "time-style").map String.ofList with
    | some "full-iso" => "%Y-%m-%d %H:%M:%S.%N %z".toList
    | some "long-iso" => "%Y-%m-%d %H:%M".toList
    | some "iso" => (if isRecent then "%m-%d %H:%M" else "%Y-%m-%d ").toList
    | some style =>
      if style.startsWith "+" then (style.toList.drop 1).takeWhile (· ≠ '\n') else plain isRecent
    | none => if g.has "full-time" then "%Y-%m-%d %H:%M:%S.%N %z".toList else plain isRecent
  (Calendar.Moment.ofSeconds time).format format
where
  /-- The seconds of half a year. -/
  halfYear : Int := 15778476
  /-- The format of a list that nothing else is said about. -/
  plain (isRecent : Bool) : Bytes := (if isRecent then "%b %e %H:%M" else "%b %e  %Y").toList

/-- How files are listed as options say. -/
def listingOf (standard : Arrangement) (style : NameStyle) (now : Int) (g : Given) : Listing :=
  let word (key value : String) : Bool := (g.value? key) = some value.toList
  let arrangement : Arrangement :=
    match g.lastOf? ["C", "x", "m", "l", "g", "o", "n", "1", "format", "full-time",
        "numeric-uid-gid", "zero"] with
    | some "C" => .columns
    | some "x" => .rows
    | some "m" => .commas
    | some "1" =>
      if ["l", "g", "o", "n", "full-time"].any g.has then .details else .lines
    | some "zero" => .lines
    | some "format" =>
      match String.ofList ((g.value? "format").getD []) with
      | "long" | "verbose" => .details
      | "commas" => .commas
      | "across" | "horizontal" => .rows
      | "vertical" => .columns
      | _ => .lines
    | some _ => .details
    | none => standard
  let order := match g.lastOf? ["t", "S", "U", "f", "X", "v", "sort"] with
    | some "sort" => ((Listing.keys.find? fun k => word "sort" k.1).map (·.2)).getD ""
    | some "f" => "U"
    | some key => key
    | none => if (g.has "c" || g.has "u") && arrangement ≠ .details then "t" else ""
  let marks : Option Char := match g.lastOf? ["F", "classify", "p", "file-type",
      "indicator-style"] with
    | some "F" => some 'F'
    | some "classify" => if word "classify" "never" then none else some 'F'
    | some "p" => some 'p'
    | some "file-type" => some 't'
    | some "indicator-style" =>
      match String.ofList ((g.value? "indicator-style").getD []) with
      | "classify" => some 'F'
      | "slash" => some 'p'
      | "file-type" => some 't'
      | _ => none
    | _ => none
  let style : NameStyle := match g.lastOf? ["Q", "b", "N", "q", "literal", "quoting-style",
      "hide-control-chars"] with
    | some "Q" => .quoted
    | some "b" => .escaped
    | some "q" | some "hide-control-chars" => .masked
    | some "quoting-style" =>
      match String.ofList ((g.value? "quoting-style").getD []) with
      | "c" => .quoted
      | "escape" => .escaped
      | "shell" | "shell-escape" => .shellQuoted
      | "shell-always" | "shell-escape-always" => .alwaysQuoted
      | _ => .plain
    | some _ => .plain
    | none => style
  { arrangement, order, marks
    style := if g.has "zero" && !g.has "Q" then .plain else style
    isReversed := g.has "r" || g.has "reverse"
    showsHidden := ["a", "A", "f"].any g.has
    showsDots := g.lastOf? ["a", "A", "f"] |>.any (· ≠ "A")
    isFlat := g.has "d"
    isDeep := g.has "R" && !g.has "d"
    followsLinks := g.has "L"
    showsNumbers := g.has "i" || g.has "inode"
    showsBlocks := g.has "s"
    showsOwner := !g.has "g"
    showsGroup := !g.has "G" && !g.has "o" && !g.has "no-group"
    hasPlainOwners := g.has "n" || g.has "numeric-uid-gid"
    isShort := g.has "h" || g.has "si"
    isDecimal := g.has "si"
    directoriesFirst := g.has "group-directories-first"
    width := (((g.value? "w").bind digitsValue?)).getD 80
    tab := (((g.value? "T").bind digitsValue?)).getD 8
    mark := if g.has "zero" then '\x00' else '\n'
    ignored := g.values "I" ++ if g.has "B" then ["*~".toList, ".*~".toList] else []
    hidden := g.values "hide"
    time := timeText g now }

/-- Lists files. -/
def listing (standard : Arrangement) (style : NameStyle) : Tool := fun c =>
  c.withOptionsUpTo false 2 listingForms fun g => do
    let sorts := Listing.keys.map (·.1)
    match (g.value? "sort").filter fun text => !sorts.any fun k => k.toList = text with
    | some text => return ← c.withChoice "--sort" sorts text fun _ => pure 1
    | none => pure ()
    for (key, text) in [("w", "line width"), ("T", "tab size")] do
      match (g.value? key).filter fun value => (digitsValue? value).isNone with
      | some value =>
        return ← c.fail 2 (filled ("invalid " ++ text ++ ": %") [inSingleQuotes value])
      | none => pure ()
    let m ← get
    let l := listingOf standard style m.files.time g
    let operands := if g.operands = [] then [['.']] else g.operands
    let keepsEnds := l.arrangement = .details || g.has "F" || g.has "classify" || g.has "d"
    let found := operands.map fun path =>
      let isAtDirectory := !l.isFlat && m.isDirectory path && !g.has "H"
      let follows := l.followsLinks || g.has "H" || isAtDirectory && !keepsEnds ||
        path.getLast? = some '/'
      (path, if follows then (entryOf m true path path) else entryOf m false path path)
    for (path, e?) in found do
      match e? with
      | .error e => c.say (filled "cannot access %: %" [inQuotes path, describe e])
      | .ok _ => pure ()
    let entries := found.filterMap fun f => f.2.toOption
    let isOpened (e : Entry) : Bool := e.node.kind = .directory && !l.isFlat
    let (directories, files) := (l.sorted entries).partition isOpened
    print (l.text (linksTo m) false directories files)
    let hasHeader := 1 < operands.length || l.isDeep
    for (e, i) in directories.zipIdx do
      if 0 < i || files ≠ [] then print ['\n']
      print (listDirectory l m mostNested hasHeader e.name)
    return if found.all fun f => f.2.toOption.isSome then 0 else 2
where
  /-- How deep directories may be. -/
  mostNested : Nat := 200

/-- Lists files, one on a line. -/
def ls : Tool := listing .lines .plain

/-- Lists files in columns. -/
def dir : Tool := listing .columns .escaped

/-- Lists files with all that is known about them. -/
def vdir : Tool := listing .details .escaped

end TokenConformance.Sandbox.Shell.Tool
