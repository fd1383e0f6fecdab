import TokenConformance.Sandbox.Shell.Pattern

/-! # Fields

A word is expanded to stretches of pieces, and these fall into fields.

* `Piece`: what the parts of a word become; `markedOf` and `textOf` are what is left where no fields
  are told apart.
* `Splits`: where pieces are taken apart; `Stretch`: pieces that are taken apart in one way.
* `fieldsOf`: the fields into which stretches fall.
* `trimmedValues`: values one after another without what a pattern covers.
-/

namespace TokenConformance.Sandbox.Shell

open Sandbox.Text (Bytes)

/-- What a part of a word becomes. -/
inductive Piece where
  | char (c : Char) (isQuoted : Bool)
  /-- Here a field is even if it has no characters. -/
  | mark
  /-- The place between two values, which are fields of their own. -/
  | gap
deriving DecidableEq, Inhabited

/-- The pieces of a text. -/
def piecesOf (isQuoted : Bool) (text : Bytes) : List Piece := text.map (.char · isQuoted)

/-- The characters of pieces. -/
def markedOf (pieces : List Piece) : Marked :=
  pieces.filterMap fun
    | .char c isQuoted => some (c, isQuoted)
    | .mark | .gap => none

/-- The text of pieces. -/
def textOf (pieces : List Piece) : Bytes := (markedOf pieces).map (·.1)

/-- Where pieces are taken apart. -/
inductive Splits where
  | nowhere
  | atSeparators
  | atGaps
deriving DecidableEq, Inhabited

/-- Pieces that are taken apart in one way. -/
structure Stretch where
  splits : Splits
  pieces : List Piece
deriving DecidableEq, Inhabited

/-- The pieces of stretches. -/
def piecesIn (ss : List Stretch) : List Piece := ss.flatMap (·.pieces)

/-! ## Telling fields apart -/

/-- The fields that have been found, the last one first, and the pieces of the one that is being read,
the last one first. -/
structure Fields where
  finished : List Marked
  current : List Piece
  /-- Whether a blank has just ended a field. Other blanks and one separator belong to its end. -/
  isAfterBlank : Bool
  /-- Whether the last stretch that was taken apart was taken apart at gaps. -/
  isAfterValues : Bool
deriving Inhabited

/-- The fields after the end of the one that is being read. -/
def Fields.close (f : Fields) (atBlank : Bool) : Fields :=
  { f with finished := markedOf f.current.reverse :: f.finished, current := [], isAfterBlank := atBlank }

/-- Whether a piece separates fields, and whether it does so as a blank. -/
def Piece.separates (separators : Bytes) (splits : Splits) : Piece → Bool × Bool
  | .char c _ =>
    let isSeparator := splits = .atSeparators && separators.contains c
    (isSeparator, isSeparator && c ∈ [' ', '\t', '\n'])
  | .mark => (false, false)
  | .gap => (true, true)

/-- The fields after one more piece of a stretch that is taken apart. Blanks that start a field are left
out, unless the values of all parameters stand right before the stretch. -/
def Fields.add (separators : Bytes) (splits : Splits) (f : Fields) (p : Piece) : Fields :=
  let (isSeparator, isBlank) := p.separates separators splits
  let endsAtBlank := isBlank && splits = .atSeparators && !f.isAfterValues
  if !isSeparator then { f with current := p :: f.current, isAfterBlank := false }
  else if f.isAfterBlank then { f with isAfterBlank := isBlank }
  else if f.current.isEmpty && endsAtBlank then f
  else f.close endsAtBlank

/-- The fields after one more stretch. -/
def Fields.addStretch (separators : Bytes) (f : Fields) (s : Stretch) : Fields :=
  match s.splits with
  | .nowhere => { f with current := s.pieces.reverse ++ f.current }
  | splits =>
    let f := s.pieces.foldl (Fields.add separators splits) { f with isAfterBlank := false }
    { f with isAfterValues := splits = .atGaps }

/-- The fields into which stretches fall. The last value is a field even if it is empty. -/
def fieldsOf (separators : Bytes) (ss : List Stretch) : List Marked :=
  let f := ss.foldl (Fields.addStretch separators) ⟨[], [], false, false⟩
  let f := if f.isAfterValues || !f.current.isEmpty then f.close false else f
  f.finished.reverse

/-! ## Values one after another -/

/-- Whether a quoted character is kept with an escape before it. -/
def isEscaped (c : Char) : Bool := "!*?[=~:/-]\\".toList.contains c || ('\x81' ≤ c && c ≤ '\x88')

/-- Pieces with the escapes before their characters. -/
def withEscapes (pieces : List Piece) : List Piece :=
  pieces.flatMap fun
    | .char c isQuoted =>
      if isEscaped c then [.char '\x81' isQuoted, .char c isQuoted] else [.char c isQuoted]
    | p => [p]

/-- Values without what a pattern covers at their start or their end. The shortest text at the start
and the longest text at the end are looked for in the first value. Otherwise the search starts behind the
last value, where the escapes of quoted values are seen, or else only the first value if it has any. -/
def trimmedValues (p : Pattern) (fromEnd longest isQuoted : Bool) (values : List Piece) : List Piece :=
  let size := values.length
  let untilGap (pieces : List Piece) : List Piece := pieces.takeWhile (· ≠ .gap)
  let first := untilGap values
  let kept (place : Nat) : List Piece := if fromEnd then values.take place else values.drop place
  let isCovered (seen : List Piece) (place : Nat) : Bool :=
    p.covers (textOf (untilGap (if fromEnd then seen.drop place else seen.take place)))
  if first.length = size then
    piecesOf isQuoted (p.trim fromEnd longest (textOf values))
  else if fromEnd = longest then
    (((List.range (first.length + 1)).find? (isCovered first)).map kept).getD values
  else
    let seen := if !isQuoted then values
      else if (textOf first).any isEscaped then first else withEscapes values
    let counts := List.range (min seen.length size + 1)
    ((counts.find? fun n => isCovered seen (seen.length - n)).map fun n => kept (size - n)).getD values

end TokenConformance.Sandbox.Shell
