/-! # Searching in texts

* `isInside`: whether a list of characters stands anywhere inside another.
-/

namespace TokenConformance.Text

/-- Whether a list stands anywhere inside another. -/
def isInside (part : List Char) : List Char → Bool
  | [] => part.isEmpty
  | c :: rest => part.isPrefixOf (c :: rest) || isInside part rest

end TokenConformance.Text
