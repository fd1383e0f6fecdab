import TokenConformance.Text.Utf8

/-! # Texts of bytes

* `Bytes`: a text in which every character stands for the byte with its number.
* `Bytes.ofList`, `Bytes.toList`: the bytes as such.
* `Bytes.ofString`: the bytes that encode a text.
* `Bytes.lines`, `Bytes.ofLines`: the lines of a text.
* `Bytes.isAtMost`: the order of bytes.
-/

namespace TokenConformance.Sandbox.Text

/-- A text of bytes. A byte is written as the character with its number. -/
abbrev Bytes := List Char

namespace Bytes

/-- The text of a list of bytes. -/
def ofList (bytes : List UInt8) : Bytes := bytes.map fun b => Char.ofNat b.toNat

/-- The bytes of a text. -/
def toList (t : Bytes) : List UInt8 := t.map fun c => UInt8.ofNat c.toNat

/-- The bytes that encode a text. -/
def ofString (s : String) : Bytes := ofList (Text.Utf8.encode s)

/-- The decimal digits of a number, after its sign. -/
def ofInt (i : Int) : Bytes := (if i < 0 then ['-'] else []) ++ Nat.toDigits 10 i.natAbs

/-- The lines of a text without their ends. What follows the last line end is a line if it is not
empty. -/
def lines (t : Bytes) : List Bytes :=
  let pieces := t.splitOn '\n'
  if pieces.getLast? = some [] then pieces.dropLast else pieces

/-- A text of lines, each with its end. -/
def ofLines (ls : List Bytes) : Bytes := ls.flatMap (· ++ ['\n'])

/-- Whether a text is not after another one in the order of bytes. -/
def isAtMost : Bytes → Bytes → Bool
  | [], _ => true
  | _ :: _, [] => false
  | a :: as, b :: bs => a < b || (a = b && isAtMost as bs)

/-- Texts with another one between them. -/
def joined (between : Bytes) (ts : List Bytes) : Bytes := between.intercalate ts

end Bytes

end TokenConformance.Sandbox.Text
