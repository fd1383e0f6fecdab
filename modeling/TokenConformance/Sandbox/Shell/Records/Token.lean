import TokenConformance.Sandbox.Shell.Tool.Basic
import TokenConformance.Sandbox.Text.Binary
import TokenConformance.Text.Hex

/-! # Words of scripts that work on records

* `Token`: a word or a sign.
* `unescaped`: a text between quotes with its escapes replaced.
* `Token.next`: the first token of a text.
* `Token.all`: all tokens of a text, with their lines.
-/

namespace TokenConformance.Sandbox.Shell.Records

open Sandbox.Text (Bytes Numeral)
open Shell.Tool (filled)

/-- A word or a sign. -/
inductive Token where
  | number (x : Float) (source : Bytes)
  | text (t : Bytes)
  | regex (t : Bytes)
  | name (t : Bytes)
  /-- A name with an opening parenthesis directly after it. -/
  | routine (t : Bytes)
  | keyword (t : String)
  /-- The name of a routine that every script has. -/
  | known (t : String)
  | sign (t : String)
  | newline
  /-- The end of the script. -/
  | finish
  /-- A character that starts no token. -/
  | strange (c : Char)
  /-- What follows cannot be read, and why. -/
  | broken (why : Bytes)
deriving Inhabited

/-- The words with a meaning of their own. -/
def keywords : List String :=
  ["function", "func", "BEGIN", "END", "if", "else", "while", "for", "do", "break", "continue",
    "return", "next", "nextfile", "exit", "in", "getline", "delete", "print", "printf"]

/-- The routines that every script has. -/
def knownRoutines : List String :=
  ["length", "index", "substr", "sprintf", "split", "sub", "gsub", "match", "sin", "cos", "atan2",
    "exp", "log", "sqrt", "int", "rand", "srand", "system", "close", "fflush", "tolower", "toupper",
    "systime", "mktime", "strftime"]

/-- The signs, the longer ones first. -/
def signs : List String :=
  ["&&", "||", "++", "--", "+=", "-=", "*=", "/=", "%=", "^=", "==", "<=", ">=", "!=", "!~", ">>",
    "\x7b", "\x7d", "(", ")", "[", "]", ";", ",", "+", "-", "*", "/", "%", "^", "!", "<", ">", "|",
    "?", ":", "~", "$", "="]

/-- The token as a fault shows it. -/
def Token.shown : Token → Bytes
  | number _ source => source
  | text t => t
  | regex t => '/' :: t ++ ['/']
  | name t => t
  | routine t => t
  | keyword t => t.toList
  | known t => t.toList
  | sign t => t.toList
  | newline => "end of line".toList
  | finish => "end of file".toList
  | strange c => [c]
  | broken _ => []

/-- Whether a slash after the token divides. -/
def Token.endsOperand : Token → Bool
  | number _ _ | text _ | regex _ | name _ => true
  | keyword t => t = "getline"
  | sign t => t ∈ [")", "]"]
  | _ => false

/-! ## Texts and expressions -/

/-- The character that the text after a backslash stands for, and what follows it. -/
def escapeAt? (cs : Bytes) : Option (Char × Bytes) :=
  match cs with
  | 'a' :: rest => some ('\x07', rest)
  | 'b' :: rest => some ('\x08', rest)
  | 'f' :: rest => some ('\x0c', rest)
  | 'n' :: rest => some ('\n', rest)
  | 'r' :: rest => some ('\r', rest)
  | 't' :: rest => some ('\t', rest)
  | 'v' :: rest => some ('\x0b', rest)
  | 'x' :: rest =>
    let digits := (rest.take 2).takeWhile Text.isHexDigit
    let n := Numeral.valueIn 16 digits
    if digits = [] then none else some (Char.ofNat (n % 256), rest.drop digits.length)
  | c :: _ =>
    let digits := (cs.take 3).takeWhile fun c => '0' ≤ c && c ≤ '7'
    if digits = [] then if c ∈ ['\\', '"'] then some (c, cs.drop 1) else none
    else some (Char.ofNat (Numeral.valueIn 8 digits % 256), cs.drop digits.length)
  | [] => none

/-- A text between quotes with its escapes replaced. The number bounds its length. -/
def unescaped : Nat → Bytes → Bytes
  | 0, _ => []
  | _, [] => []
  | n + 1, '\\' :: '\n' :: rest => unescaped n rest
  | n + 1, '\\' :: rest =>
    match escapeAt? rest with
    | some (c, rest) => c :: unescaped n rest
    | none => '\\' :: (rest.take 1 ++ unescaped n (rest.drop 1))
  | n + 1, c :: rest => c :: unescaped n rest

/-- The characters up to a quote that has no backslash before it, and what follows the quote. -/
def quoted? : Bytes → Option (Bytes × Bytes)
  | [] => none
  | '"' :: rest => some ([], rest)
  | '\n' :: _ => none
  | '\\' :: c :: rest => (quoted? rest).map fun (t, rest) => ('\\' :: c :: t, rest)
  | c :: rest => (quoted? rest).map fun (t, rest) => (c :: t, rest)

/-- The characters up to a slash that is neither after a backslash nor between brackets, and what
follows the slash. The flags say whether a set is open, and whether it has just been opened. -/
def slashed? (isSet isFirst : Bool) : Bytes → Option (Bytes × Bytes)
  | [] => none
  | '\n' :: _ => none
  | '\\' :: c :: rest =>
    (slashed? isSet false rest).map fun (t, rest) => ('\\' :: c :: t, rest)
  | c :: rest =>
    if c = '/' && !isSet then some ([], rest)
    else
      let isSet' := if isSet then c ≠ ']' || isFirst else c = '['
      let isFirst' := if isSet then isFirst && c = '^' else c = '['
      (slashed? isSet' isFirst' rest).map fun (t, rest) => (c :: t, rest)

/-- What a fault shows of a text that has no end. -/
def runaway (cs : Bytes) : Bytes := (cs.takeWhile (· ≠ '\n')).take 10

/-! ## Tokens -/

/-- The token that a word is, before a text. -/
def Token.ofWord (word rest : Bytes) : Token :=
  let s := String.ofList word
  if s ∈ keywords then keyword (if s = "func" then "function" else s)
  else if s ∈ knownRoutines then known s
  else if rest.head? = some '(' then routine word
  else name word

/-- The first token of a text after another one, and what follows it. The character after a slash is
lost if a number has just been changed by one, and so is the one after a point without digits. -/
def Token.next (line : Nat) (before : Token) (cs : Bytes) : Token × Bytes :=
  let steps := match before with
    | sign s => s = "++" || s = "--"
    | _ => false
  let isNumber := match cs with
    | '.' :: c :: _ => c.isDigit
    | c :: _ => c.isDigit
    | [] => false
  match cs with
  | [] => (finish, [])
  | '"' :: rest =>
    match quoted? rest with
    | some (t, rest) => (text (unescaped t.length t), rest)
    | none =>
      (broken (filled "line %: runaway string constant \"% ..." [Bytes.ofInt line, runaway rest]), [])
  | c :: rest =>
    if isNumber then
      match Numeral.mantissa? Char.isDigit cs with
      | some (whole, fraction, after) =>
        let (e, after) := Numeral.exponent 'e' after
        let n : Numeral := .decimal false (Numeral.valueIn 10 (whole ++ fraction)) (e - fraction.length)
        (number (n.toBinary .double).toFloat (cs.take (cs.length - after.length)), after)
      | none => (finish, [])
    else if c.isAlpha || c = '_' then
      let word := cs.takeWhile Text.isWordChar
      let rest := cs.drop word.length
      (Token.ofWord word rest, rest)
    else if c = '/' && !before.endsOperand then
      let rest := if steps && rest.head? ≠ some '=' then rest.drop 1 else rest
      match slashed? false false rest with
      | some (t, rest) => (regex t, rest)
      | none =>
        (broken (filled "line %: runaway regular expression /% ..." [Bytes.ofInt line, runaway rest]),
          [])
    else
      match signs.find? fun s => s.toList.isPrefixOf cs with
      | some s => (sign s, cs.drop s.length)
      | none => (strange c, if c = '.' then rest.drop 1 else rest)

/-- All tokens of a text, with their lines. The number bounds its length. -/
def Token.all : Nat → Nat → Token → Bytes → List (Token × Nat)
  | 0, line, _, _ => [(finish, line)]
  | _, line, _, [] => [(finish, line)]
  | n + 1, line, before, c :: rest =>
    match c, rest with
    | '\n', _ => (newline, line) :: all n (line + 1) newline rest
    | '\\', '\n' :: rest => all n (line + 1) before rest
    | '\\', '\r' :: '\n' :: rest => all n (line + 1) before rest
    | '#', _ => all n line before (rest.dropWhile (· ≠ '\n'))
    | _, _ =>
      if c = ' ' || c = '\t' || c = '\r' || c = '\x0c' then all n line before rest
      else
        let (t, after) := Token.next line before (c :: rest)
        (t, line) :: all n line t after

end TokenConformance.Sandbox.Shell.Records
