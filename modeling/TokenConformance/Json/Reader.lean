import TokenConformance.Json.Token
import TokenConformance.Text.Utf8

/-! # Reading JSON

The values around the place that is being read are kept in a list of frames, innermost first, so
nesting has no limit and every token is looked at once.

* `Frame`: an array or an object of which the first elements have been read.
* `value?`, `after?`: what the tokens mean where a value is due, and where one has just ended.
* `Json.ofText?`, `Json.ofBytes?`: the value of a whole text.
-/

namespace TokenConformance.Json

/-- An unfinished array or object. What has been read of it stands in reverse order. -/
inductive Frame where
  | array (items : List Json)
  | object (fields : List (Option String × Json)) (key : Option String)

mutual

/-- Reads a value and the rest of everything around it. -/
def value? (frames : List Frame) : List Token → Option Json
  | .null :: rest => after? frames .null rest
  | .bool b :: rest => after? frames (.bool b) rest
  | .number n :: rest => after? frames (.number n) rest
  | .text s :: rest => after? frames (.string s) rest
  | .leftBracket :: .rightBracket :: rest => after? frames (.array []) rest
  | .leftBracket :: rest => value? (.array [] :: frames) rest
  | .leftBrace :: .rightBrace :: rest => after? frames (.object []) rest
  | .leftBrace :: .text key :: .colon :: rest => value? (.object [] key :: frames) rest
  | _ => none

/-- Puts a finished value into the innermost frame and reads the rest of everything around it. -/
def after? (frames : List Frame) (value : Json) : List Token → Option Json
  | [] =>
    match frames with
    | [] => some value
    | _ :: _ => none
  | .comma :: .text key :: .colon :: rest =>
    match frames with
    | .object fields last :: frames =>
      value? (.object ((last, value) :: fields) key :: frames) rest
    | _ => none
  | .comma :: rest =>
    match frames with
    | .array items :: frames => value? (.array (value :: items) :: frames) rest
    | _ => none
  | .rightBracket :: rest =>
    match frames with
    | .array items :: frames => after? frames (.array (value :: items).reverse) rest
    | _ => none
  | .rightBrace :: rest =>
    match frames with
    | .object fields last :: frames =>
      after? frames (.object ((last, value) :: fields).reverse) rest
    | _ => none
  | _ => none

end

/-- The value of a whole text in which ill-formed pieces stand as `none`. -/
def ofPieces? (cs : List (Option Char)) : Option Json := (tokens? cs).bind (value? [])

/-- The value of a whole text. -/
def ofText? (s : String) : Option Json := ofPieces? (s.toList.map some)

/-- The value of a whole text in UTF-8. -/
def ofBytes? (bytes : List UInt8) : Option Json := ofPieces? (Text.Utf8.decode bytes)

end TokenConformance.Json
