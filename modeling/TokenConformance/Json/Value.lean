import TokenConformance.Json.Number

/-! # JSON values

A value keeps what a reader may have to judge: number literals as they are written, fields in
their order with repetitions, and string literals that denote no text.

* `Json`: the values.
* `Json.text?`, `Json.bool?`, `Json.intIn?`, `Json.listOf?`: the readings of plain values.
* `Json.depth`: how deep brackets are nested.
* `Json.isReadable`: every literal, also of keys, denotes a value.
-/

namespace TokenConformance

/-- A JSON value. A string literal that denotes no text (a lone surrogate or bytes that are not
UTF-8) has the content `none`. -/
inductive Json where
  | null
  | bool (value : Bool)
  | number (literal : Number)
  | string (content : Option String)
  | array (items : List Json)
  | object (fields : List (Option String × Json))
deriving Inhabited

namespace Json

/-- The value of a text. -/
def ofString (s : String) : Json := .string (some s)

/-- The value of an integer. -/
def ofInt (i : Int) : Json := .number (.ofInt i)

/-- The text of a string. -/
def text? : Json → Option String
  | .string content => content
  | _ => none

/-- The value of `true` and `false`. -/
def bool? : Json → Option Bool
  | .bool b => some b
  | _ => none

/-- The value of an integer literal in a range. -/
def intIn? (low high : Int) : Json → Option Int
  | .number n => n.toIntIn? low high
  | _ => none

/-- The value of an integer literal that fits 64 bits with a sign. -/
def int64? : Json → Option Int := intIn? (-9223372036854775808) 9223372036854775807

/-- The elements of an array, all read in one way. -/
def listOf? {α : Type} (read : Json → Option α) : Json → Option (List α)
  | .array items => items.mapM read
  | _ => none

/-- A value that may be written as `null`. -/
def nullable? {α : Type} (read : Json → Option α) : Json → Option (Option α)
  | .null => some none
  | j => (read j).map some

/-! ## Nesting and literals -/

mutual

/-- How many brackets stand inside one another at most. -/
def depth : Json → Nat
  | .array items => depthOfItems items + 1
  | .object fields => depthOfFields fields + 1
  | _ => 0

/-- The greatest depth among elements. -/
def depthOfItems : List Json → Nat
  | [] => 0
  | item :: rest => max item.depth (depthOfItems rest)

/-- The greatest depth among the values of fields. -/
def depthOfFields : List (Option String × Json) → Nat
  | [] => 0
  | (_, value) :: rest => max value.depth (depthOfFields rest)

end

mutual

/-- Whether every string literal denotes a text and every number literal a finite number. -/
def isReadable : Json → Bool
  | .number n => n.isFinite
  | .string content => content.isSome
  | .array items => allReadable items
  | .object fields => allFieldsReadable fields
  | _ => true

/-- Whether every element is readable. -/
def allReadable : List Json → Bool
  | [] => true
  | item :: rest => item.isReadable && allReadable rest

/-- Whether every key denotes a text and every value is readable. -/
def allFieldsReadable : List (Option String × Json) → Bool
  | [] => true
  | (key, value) :: rest => key.isSome && value.isReadable && allFieldsReadable rest

end

end Json

end TokenConformance
