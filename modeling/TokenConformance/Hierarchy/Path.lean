import TokenConformance.Text.Search

/-! # Source paths

* `withoutDotSlash`: a path without `./` at its start, however often it stands there.
* `isLibraryPath`: whether a path has one of some prefixes at its start or after a slash.
* `pathsMatch`: whether of two paths one is the other or ends in a slash and the other.
-/

namespace TokenConformance.Hierarchy

/-- A path without `./` at its start, however often it stands there. -/
def withoutDotSlash : List Char → List Char
  | '.' :: '/' :: rest => withoutDotSlash rest
  | cs => cs

/-- Whether a path lies under one of some prefixes, at its start or after a slash. -/
def isLibraryPath (prefixes : List String) (path : String) : Bool :=
  let path := withoutDotSlash path.toList
  prefixes.any fun p => p.toList.isPrefixOf path || Text.isInside ('/' :: p.toList) path

/-- Whether two paths, one of which may be longer at its start, name one file. -/
def pathsMatch (a b : String) : Bool :=
  let a := withoutDotSlash a.toList
  let b := withoutDotSlash b.toList
  a == b || ('/' :: b).isSuffixOf a || ('/' :: a).isSuffixOf b

end TokenConformance.Hierarchy
