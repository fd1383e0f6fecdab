import TokenConformance.Sandbox.Text.Bytes

/-! # Permissions

* `modeBySymbols?`: permissions that are changed by letters such as `u+x,go=r`.
* `octal?`, `octalDigits`: permissions as octal digits.
* `symbolsOf`, `listed`: permissions as letters.
-/

namespace TokenConformance.Sandbox

open Sandbox.Text (Bytes)

/-- The bits that a letter such as `r` stands for. -/
def permissionBits? : Char → Option Nat
  | 'r' => some 0o444
  | 'w' => some 0o222
  | 'x' => some 0o111
  | 's' => some 0o6000
  | 't' => some 0o1000
  | _ => none

/-- The bits that a letter such as `u` stands for. -/
def ownerBits? : Char → Option Nat
  | 'u' => some 0o4700
  | 'g' => some 0o2070
  | 'o' => some 0o1007
  | 'a' => some 0o7777
  | _ => none

/-- The bits of a list of letters. -/
def bitsOf (bits? : Char → Option Nat) (letters : Bytes) : Nat :=
  letters.foldl (fun bits c => bits ||| (bits? c).getD 0) 0

/-- The permissions that one owner has, given to all. -/
def spread (c : Char) (mode : Nat) : Nat :=
  let three := match c with
    | 'u' => mode / 64 % 8
    | 'g' => mode / 8 % 8
    | _ => mode % 8
  three * 0o111

/-- The permissions after one change by letters, whose owners are known. A directory keeps the bits for
its owners unless they are named. The number bounds how many changes there are. -/
def changedBy (owners mask : Nat) (isDirectory : Bool) : Nat → Bytes → Nat → Option Nat
  | 0, _, _ => none
  | _, [], mode => some mode
  | n + 1, sign :: rest, mode =>
    if sign ∉ ['+', '-', '='] then none
    else
      let isLetter (c : Char) : Bool := c ∈ "rwxXstugo".toList
      let letters := rest.takeWhile isLetter
      let plain := bitsOf permissionBits? letters
      let copied := (letters.filter fun c => c ∈ ['u', 'g', 'o']).foldl
        (fun bits c => bits ||| spread c mode) 0
      let runs := if 'X' ∈ letters && (isDirectory || mode &&& 0o111 ≠ 0) then 0o111 else 0
      let kept := if isDirectory then 0o6000 - (0o6000 &&& plain &&& owners) else 0
      let bits := (plain ||| copied ||| runs) &&& owners &&& (0o7777 - mask) &&& (0o7777 - kept)
      let mode := match sign with
        | '+' => mode ||| bits
        | '-' => mode - (mode &&& bits)
        | _ => (mode - (mode &&& owners &&& (0o7777 - kept))) ||| bits
      changedBy owners mask isDirectory n (rest.drop letters.length) mode

/-- The permissions that a text such as `u+x,go=r` gives to something. Without owners all of them are
meant, but nothing that the mask keeps away changes. -/
def modeBySymbols? (mask : Nat) (isDirectory : Bool) (text : Bytes) (mode : Nat) : Option Nat :=
  (text.splitOn ',').foldlM
    (fun mode part =>
      let owners := part.takeWhile fun c => (ownerBits? c).isSome
      if part.length = owners.length then none
      else
        changedBy (if owners = [] then 0o7777 else bitsOf ownerBits? owners)
          (if owners = [] then mask else 0) isDirectory (part.length + 1)
          (part.drop owners.length) mode) mode

/-- The number that octal digits stand for. -/
def octal? (text : Bytes) : Option Nat :=
  if text ≠ [] && text.all fun c => '0' ≤ c && c ≤ '7' then some (text.foldl (fun n c => n * 8 + (c.toNat - 48)) 0)
  else none

/-- A number in octal digits. -/
def octalDigits (width n : Nat) : Bytes :=
  let digits := Nat.toDigits 8 n
  List.replicate (width - digits.length) '0' ++ digits

/-- Permissions as letters. -/
def symbolsOf (mode : Nat) : Bytes :=
  let three (c : Char) : Bytes :=
    let bits := spread c mode
    c :: '=' :: "rwx".toList.filter fun l => bits &&& (permissionBits? l).getD 0 ≠ 0
  Bytes.joined [','] ("ugo".toList.map three)

/-- Permissions as nine letters. -/
def listed (mode : Nat) : Bytes :=
  let letter (c : Char) (bit : Nat) : Char := if mode &&& bit ≠ 0 then c else '-'
  let last (special : Nat) (bit : Nat) (both alone : Char) : Char :=
    if mode &&& special ≠ 0 then if mode &&& bit ≠ 0 then both else alone else letter 'x' bit
  [letter 'r' 0o400, letter 'w' 0o200, last 0o4000 0o100 's' 'S', letter 'r' 0o040,
    letter 'w' 0o020, last 0o2000 0o010 's' 'S', letter 'r' 0o004, letter 'w' 0o002,
    last 0o1000 0o001 't' 'T']

end TokenConformance.Sandbox
