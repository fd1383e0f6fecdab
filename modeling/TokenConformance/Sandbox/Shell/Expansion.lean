import TokenConformance.Sandbox.Shell.Arithmetic
import TokenConformance.Sandbox.Shell.Fields

/-! # Expansions

* `Capture`: how the output of a script is got.
* `valuePieces?`: the value of a parameter; `splitsOf`: where it is taken apart.
* `stretches`: what a word becomes.
* `paths`: the paths that a field with a pattern stands for.
* `withHome`, `withHomes`: a word with a home directory in the place of a tilde.
* `expandText`, `expandValue`, `expandPattern`, `expandFields`: a word as one text, as the value of
  an assignment, as a pattern, and as fields.
-/

namespace TokenConformance.Sandbox.Shell

open Sandbox.Text (Bytes)

/-- How the output of a script is got. -/
abbrev Capture := Script → Action Bytes

/-- A text without the line ends and zeros that an output cannot keep. -/
def withoutEnd (output : Bytes) : Bytes :=
  ((output.filter (· ≠ '\x00')).reverse.dropWhile (· = '\n')).reverse

/-! ## Homes -/

/-- The home directories of users. -/
def homes : List (String × String) :=
  [("root", "/root"), ("daemon", "/usr/sbin"), ("bin", "/bin"), ("sys", "/dev"), ("sync", "/bin"),
    ("games", "/usr/games"), ("man", "/var/cache/man"), ("mail", "/var/mail"),
    ("www-data", "/var/www"), ("nobody", "/nonexistent")]

/-- The home directory of a user, or of the one who runs the shell. -/
def homeOf? (m : Machine) (user : Bytes) : Option Bytes :=
  if user = [] then m.lookup? "HOME".toList
  else (homes.find? fun h => h.1.toList = user).map (·.2.toList)

/-- A word that starts with a home directory if it starts with a tilde. In an assignment a colon ends
the name of the user too. -/
def withHome (m : Machine) (isAssignment : Bool) (w : Word) : Word :=
  match w with
  | .char '~' false :: rest =>
    let isEnd : Part → Bool
      | .char c false => c = '/' || (isAssignment && c = ':')
      | _ => false
    let user := rest.takeWhile fun p => !isEnd p
    let name? := user.mapM fun
      | .char c false => some c
      | _ => none
    match name?.bind (homeOf? m) with
    | some home => home.map (.char · true) ++ rest.drop user.length
    | none => w
  | _ => w

/-- The value of an assignment with the home directories at its start and after its colons. -/
def withHomes (m : Machine) (w : Word) : Word :=
  let isColon : Part → Bool
    | .char ':' false => true
    | _ => false
  [Part.char ':' false].intercalate ((w.splitOnP isColon).map (withHome m true))

/-! ## Parameters -/

/-- What stands between two positional parameters. Where fields are told apart they are fields of their
own, unless they are quoted as one text. -/
def between (m : Machine) (isFull isQuoted : Bool) (name : Bytes) : List Piece :=
  let separators? := m.lookup? "IFS".toList
  if isFull && (if isQuoted then name = ['@'] else separators?.isSome) then [.gap]
  else piecesOf isQuoted ((separators?.map (·.take 1)).getD [' '])

/-- The value of a parameter, or nothing when it has no value. -/
def valuePieces? (m : Machine) (isFull isQuoted : Bool) (name : Bytes) : Option (List Piece) :=
  if name = ['@'] || name = ['*'] then
    some ((between m isFull isQuoted name).intercalate (m.parameters.map (piecesOf isQuoted)))
  else (m.lookup? name).map (piecesOf isQuoted)

/-- Where the value of a parameter is taken apart. -/
def splitsOf (m : Machine) (isQuoted : Bool) (name : Bytes) : Splits :=
  if !isQuoted then .atSeparators
  else if name = ['@'] && !m.parameters.isEmpty then .atGaps
  else .nowhere

/-- A parameter has no value. -/
def refuseUnset (m : Machine) (name : Bytes) : Action Unit := do
  if m.options.refusesUnset then abort (name ++ ": parameter not set".toList)

/-- An unquoted character that stands for itself. -/
def Part.plain? : Part → Option Char
  | .char c false => some c
  | _ => none

section

variable (capture : Capture)

/-- What a word becomes. `isFull` says that fields are told apart, and `inFallback` that the word stands
for a parameter and is not quoted. The number bounds how deep the parts are. -/
def stretches : Nat → Bool → Bool → Word → Action (List Stretch)
  | 0, _, _, _ => throw (.killed 9)
  | n + 1, isFull, inFallback, w => do
    let made (isQuoted : Bool) (text : Bytes) : List Stretch :=
      [⟨if isQuoted then .nowhere else .atSeparators, piecesOf isQuoted text⟩]
    let partStretches : Part → Action (List Stretch)
      | .char c isQuoted => return [⟨.nowhere, [.char c isQuoted]⟩]
      | .nothing => return [⟨.nowhere, [.mark]⟩]
      | .output script isQuoted => return made isQuoted (withoutEnd (← capture script))
      | .arithmetic e isQuoted => do
        let text := textOf (piecesIn (← stretches n false false e))
        return made isQuoted (Bytes.ofInt (← evaluate text))
      | .parameter name use isQuoted => do
        let m ← get
        let whole (pieces : List Piece) : List Stretch := [⟨splitsOf m isQuoted name, pieces⟩]
        match use with
        | .value =>
          match valuePieces? m isFull isQuoted name with
          | some pieces => return whole pieces
          | none => do
            refuseUnset m name
            return []
        | .length => do
          let value? := valuePieces? m false isQuoted name
          if value?.isNone then refuseUnset m name
          return whole (piecesOf isQuoted (Bytes.ofInt (textOf (value?.getD [])).length))
        | .fallback kind orEmpty word =>
          let value? := (valuePieces? m (isFull && kind ≠ .instead) isQuoted name).filter fun pieces =>
            !(orEmpty && pieces.isEmpty)
          match kind, value? with
          | .instead, some _ | .use, none => stretches n isFull (!isQuoted) (withHome m false word)
          | .instead, none => return whole []
          | _, some pieces => return whole pieces
          | .assign, none => do
            let text := textOf (piecesIn (← stretches n false false (withHome m false word)))
            if !((name.head?.map fun c => c.isAlpha || c = '_').getD false) then
              abort (name ++ ": bad variable name".toList)
            setVariable name text
            return whole (piecesOf isQuoted text)
          | .fail, none => do
            let text := textOf (piecesIn (← stretches n false false word))
            let text := if word.isEmpty then
                (if orEmpty then "parameter not set or null" else "parameter not set").toList
              else text
            abort (name ++ ": ".toList ++ text)
        | .trim fromEnd longest word =>
          match valuePieces? m isFull isQuoted name with
          | none => do
            refuseUnset m name
            return []
          | some pieces => do
            let pattern ← stretches n false false (withHome m false word)
            return whole (trimmedValues (Pattern.ofMarked (markedOf (piecesIn pattern))) fromEnd longest
              isQuoted pieces)
        | .invalid => abort "Bad substitution".toList
    let found ← (w.splitBy fun a b => a.plain?.isSome && b.plain?.isSome).mapM fun ps =>
      match ps.mapM Part.plain? with
      | some text =>
        return [⟨if inFallback then .atSeparators else .nowhere, piecesOf false text⟩]
      | none => return (← ps.mapM partStretches).flatten
    return found.flatten

/-- A document as one text. -/
def expandDocument (n : Nat) (w : Word) : Action Bytes := do
  return textOf (piecesIn (← stretches capture n false false w))

/-- A word as one text. -/
def expandText (n : Nat) (w : Word) : Action Bytes := do
  expandDocument capture n (withHome (← get) false w)

/-- The value of an assignment. -/
def expandValue (n : Nat) (w : Word) : Action Bytes := do
  expandDocument capture n (withHomes (← get) w)

/-- A word as a pattern. -/
def expandPattern (n : Nat) (w : Word) : Action Pattern := do
  let found ← stretches capture n false false (withHome (← get) false w)
  return Pattern.ofMarked (markedOf (piecesIn found))

end

/-! ## Paths -/

/-- A path with every name of a directory that a part stands for. -/
def withPart (m : Machine) (part : Marked) (before : Bytes) : List Bytes :=
  if Pattern.isActive part then
    let pattern := Pattern.ofMarked part
    match m.find (if before = [] then ['.'] else before) with
    | .ok place =>
      if m.files.isDirectory place then
        (['.'] :: ['.', '.'] :: m.files.names place).filterMap fun name =>
          let isHidden := name.head? = some '.' && (part.head?.map (·.1)) ≠ some '.'
          if !isHidden && pattern.covers name then some (before ++ name) else none
      else []
    | .error _ => []
  else [before ++ part.map (·.1)]

/-- The paths that a field stands for, or the field itself when there are none. -/
def paths (m : Machine) (field : Marked) : List Bytes :=
  let text := field.map (·.1)
  if m.options.keepsPatterns || !Pattern.isActive field then [text]
  else
    let parts := field.splitOnP fun c => c.1 = '/'
    let found := match parts with
      | [] => []
      | first :: rest =>
        rest.foldl
          (fun befores part => befores.flatMap fun before => withPart m part (before ++ ['/']))
          (withPart m first [])
    match (found.filter fun p => (m.kindNamed? p).isSome).mergeSort Bytes.isAtMost with
    | [] => [text]
    | found => found

/-- The fields of a word. -/
def expandFields (capture : Capture) (n : Nat) (w : Word) : Action (List Bytes) := do
  let found ← stretches capture n true false (withHome (← get) false w)
  let m ← get
  return (fieldsOf m.separators found).flatMap (paths m)

/-- The fields of some words. -/
def expandAll (capture : Capture) (n : Nat) (ws : List Word) : Action (List Bytes) := do
  return (← ws.mapM (expandFields capture n)).flatten

end TokenConformance.Sandbox.Shell
