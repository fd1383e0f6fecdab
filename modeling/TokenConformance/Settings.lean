/-! # Settings

* `Settings`: how a compiler is reached and which paths are library code.
* `Settings.default`: the settings of a plain check.
-/

namespace TokenConformance

/-- The prefixes of the paths of well-known libraries. -/
def knownLibraries : List String :=
  ["@openzeppelin/", "node_modules/", "lib/openzeppelin-contracts/", "lib/solmate/", "lib/solady/"]

/-- How a compiler is reached and which paths are library code. -/
structure Settings where
  compiler : String
  /-- Arguments before those that ask for the syntax tree. -/
  compilerArguments : List String
  libraryPrefixes : List String
deriving DecidableEq, Inhabited

/-- The settings of a check without options. -/
def Settings.default : Settings := ⟨"solc", [], knownLibraries⟩

end TokenConformance
