import TokenConformance.Text.Blank

/-! # Canonical types

Interfaces are compared by the types that appear in selectors, so a type as the compiler describes
it is brought to that form.

* `withoutLocations`: the words of a type without the data locations at its end.
* `collapsed`: address-like types become `address`, enumerations `uint8`, structures their name;
  array suffixes stay.
* `expanded`: the short names `uint`, `int` and `byte` in full.
* `canonicalType`: the three steps in this order.
-/

namespace TokenConformance.Solidity

/-- The words that say where a value is kept. -/
def dataLocations : List (List Char) :=
  ["memory", "storage", "calldata", "ref", "pointer", "slice"].map String.toList

/-- The words without the data locations at the end. The first word stays in any case. -/
def withoutLocations : List (List Char) → List (List Char)
  | [] => []
  | w :: rest => w :: (rest.reverse.dropWhile fun w => w ∈ dataLocations).reverse

/-- What stands before the first bracket, and the array suffix from there on. -/
def splitSuffix (type : List Char) : List Char × List Char :=
  (type.takeWhile (· ≠ '['), type.dropWhile (· ≠ '['))

/-- The words of a type as one type. -/
def collapsed : List (List Char) → List Char
  | [kind, rest] =>
    let (name, suffix) := splitSuffix rest
    if kind = "address".toList ∧ name = "payable".toList ∨ kind = "contract".toList ∨
        kind = "interface".toList then
      "address".toList ++ suffix
    else if kind = "enum".toList then "uint8".toList ++ suffix
    else if kind = "struct".toList then rest
    else kind ++ ' ' :: rest
  | ws => [' '].intercalate ws

/-- The full name of an elementary type. -/
def fullName (name : List Char) : List Char :=
  if name = "uint".toList then "uint256".toList
  else if name = "int".toList then "int256".toList
  else if name = "byte".toList then "bytes1".toList
  else name

/-- A type with its name in full. -/
def expanded (type : List Char) : List Char :=
  let (name, suffix) := splitSuffix type
  fullName name ++ suffix

/-- The form of a type that appears in selectors. -/
def canonicalType (raw : String) : String :=
  String.ofList (expanded (collapsed (withoutLocations (Text.words raw.toList))))

end TokenConformance.Solidity
