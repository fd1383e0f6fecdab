import TokenConformance.Sandbox.Text.Bytes

/-! # Sets of characters

* `classTest?`: the characters of a class such as `digit`.
* `Member`, `CharSet`: a set as ranges and classes.
* `CharSet.has`: whether a character is in a set.
-/

namespace TokenConformance.Sandbox.Text

/-- Whether a character can be seen. -/
def isGraph (c : Char) : Bool := 0x21 ≤ c.toNat && c.toNat ≤ 0x7E

/-- Whether a character is white. -/
def isSpace (c : Char) : Bool := c = ' ' || (9 ≤ c.toNat && c.toNat ≤ 13)

/-- Whether a character is part of a word. -/
def isWordChar (c : Char) : Bool := c.isAlphanum || c = '_'

/-- Whether a character is a hexadecimal digit. -/
def isHexDigit (c : Char) : Bool := c.isDigit || ('a' ≤ c && c ≤ 'f') || ('A' ≤ c && c ≤ 'F')

/-- The characters of a class. -/
def classTest? (name : String) : Option (Char → Bool) :=
  match name with
  | "alpha" => some Char.isAlpha
  | "digit" => some Char.isDigit
  | "alnum" => some Char.isAlphanum
  | "upper" => some Char.isUpper
  | "lower" => some Char.isLower
  | "space" => some isSpace
  | "blank" => some fun c => c = ' ' || c = '\t'
  | "punct" => some fun c => isGraph c && !c.isAlphanum
  | "print" => some fun c => c = ' ' || isGraph c
  | "graph" => some isGraph
  | "cntrl" => some fun c => c.toNat < 32 || c.toNat = 127
  | "xdigit" => some isHexDigit
  | _ => none

/-- A range of characters, or a class of them. -/
inductive Member where
  | range (first last : Char)
  | named (test : Char → Bool)

/-- Whether a character is a member. -/
def Member.holds (c : Char) : Member → Bool
  | .range first last => first ≤ c && c ≤ last
  | .named test => test c

/-- A set of characters. -/
structure CharSet where
  isNegated : Bool
  members : List Member
  /-- Whether upper and lower case are the same. -/
  ignoresCase : Bool
deriving Inhabited

namespace CharSet

/-- The set of one character. -/
def single (ignoresCase : Bool) (c : Char) : CharSet := ⟨false, [.range c c], ignoresCase⟩

/-- The set of all characters. -/
def all : CharSet := ⟨true, [], false⟩

/-- The set of the characters of words, or of all others. -/
def word (isNegated : Bool) : CharSet := ⟨isNegated, [.named isWordChar], false⟩

/-- The set of white characters, or of all others. -/
def space (isNegated : Bool) : CharSet := ⟨isNegated, [.named isSpace], false⟩

/-- Whether a character is in a set. -/
def has (s : CharSet) (c : Char) : Bool :=
  let isMember (c : Char) : Bool := s.members.any (·.holds c)
  (isMember c || (s.ignoresCase && (isMember c.toLower || isMember c.toUpper))) != s.isNegated

end CharSet

end TokenConformance.Sandbox.Text
