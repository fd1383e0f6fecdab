import TokenConformance.Json.Value
import TokenConformance.Text.Hex

/-! # Writing JSON

* `escape`: the characters that stand for a character inside a string literal.
* `Json.pretty`: the text of a value, every element on a line of its own, two blanks for a level.

An array or object without elements is written as two brackets. Of the characters only the quote,
the backslash and the controls below U+0020 are escaped.
-/

namespace TokenConformance

/-- What stands for a character inside a string literal. -/
def Json.escape (c : Char) : List Char :=
  if c = '"' then ['\\', '"']
  else if c = '\\' then ['\\', '\\']
  else if c = '\x08' then ['\\', 'b']
  else if c = '\x0C' then ['\\', 'f']
  else if c = '\n' then ['\\', 'n']
  else if c = '\r' then ['\\', 'r']
  else if c = '\t' then ['\\', 't']
  else if c.toNat < 0x20 then
    ['\\', 'u', '0', '0', Text.Hex.digit (c.toNat / 16), Text.Hex.digit (c.toNat % 16)]
  else [c]

/-- The literal of a string. A content that is no text is written as a lone surrogate. -/
def Json.quoted : Option String → List Char
  | some s => '"' :: s.toList.flatMap Json.escape ++ ['"']
  | none => ['"', '\\', 'u', 'd', '8', '0', '0', '"']

/-- A number literal as it was written, the sign of a positive exponent apart. -/
def Number.written (n : Number) : List Char :=
  (if n.negative then ['-'] else []) ++ Nat.toDigits 10 n.whole ++
    (if n.fraction = [] then [] else '.' :: n.fraction.map fun d => Char.ofNat ('0'.toNat + d)) ++
    match n.exponent with
    | none => []
    | some e => 'e' :: (if e < 0 then ['-'] else []) ++ Nat.toDigits 10 e.natAbs

namespace Json

/-- A new line at a level of nesting. -/
def newLine (level : Nat) : List Char := '\n' :: List.replicate (2 * level) ' '

mutual

/-- The text of a value that starts at a level of nesting. -/
def written (level : Nat) : Json → List Char
  | .null => ['n', 'u', 'l', 'l']
  | .bool true => ['t', 'r', 'u', 'e']
  | .bool false => ['f', 'a', 'l', 's', 'e']
  | .number n => n.written
  | .string s => quoted s
  | .array [] => ['[', ']']
  | .array (item :: rest) =>
    '[' :: newLine (level + 1) ++ written (level + 1) item ++ writtenItems (level + 1) rest ++
      newLine level ++ [']']
  | .object [] => ['{', '}']
  | .object ((key, value) :: rest) =>
    '{' :: newLine (level + 1) ++ quoted key ++ [':', ' '] ++ written (level + 1) value ++
      writtenFields (level + 1) rest ++ newLine level ++ ['}']

/-- The further elements of an array, each after a comma. -/
def writtenItems (level : Nat) : List Json → List Char
  | [] => []
  | item :: rest => ',' :: newLine level ++ written level item ++ writtenItems level rest

/-- The further fields of an object, each after a comma. -/
def writtenFields (level : Nat) : List (Option String × Json) → List Char
  | [] => []
  | (key, value) :: rest =>
    ',' :: newLine level ++ quoted key ++ [':', ' '] ++ written level value ++
      writtenFields level rest

end

/-- The text of a value over several lines. -/
def pretty (j : Json) : String := String.ofList (j.written 0)

end Json

end TokenConformance
