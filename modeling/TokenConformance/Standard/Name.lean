import TokenConformance.Failure
import TokenConformance.Standard.Erc20
import TokenConformance.Standard.Erc721
import TokenConformance.Text.Blank

/-! # The supported standards

* `Standard`: the standards, with `name` and `ruleSet`.
* `Standard.ofName?`: the standard with a name. Case, separators and surrounding blanks are free.
* `Standard.parse`: the same, or the failure that lists what is supported.
-/

namespace TokenConformance

/-- A token standard. -/
inductive Standard where
  | erc20
  | erc721
deriving DecidableEq, Inhabited

namespace Standard

/-- All standards. -/
def all : List Standard := [erc20, erc721]

/-- The name in its plain form. -/
def name : Standard → String
  | erc20 => "ERC20"
  | erc721 => "ERC721"

/-- The rules. -/
def ruleSet : Standard → RuleSet
  | erc20 => Erc20.ruleSet
  | erc721 => Erc721.ruleSet

/-- A name without surrounding blanks, hyphens and underscores, in upper case. Only ASCII letters
have a case here. -/
def plainName (s : String) : List Char :=
  ((Text.trimmed s.toList).filter fun c => c ≠ '-' ∧ c ≠ '_').map Char.toUpper

/-- The standard with a name. -/
def ofName? (s : String) : Option Standard := all.find? fun std => std.name.toList = plainName s

/-- The names of all standards. -/
def supported : String := ", ".intercalate (all.map name)

/-- The standard with a name, or what is wrong with the name. -/
def parse (s : String) : Except RequestFailure Standard :=
  match ofName? s with
  | some std => .ok std
  | none => .error (.unknownStandard s supported)

theorem parse_eq_ok_iff {s : String} {standard : Standard} :
    parse s = .ok standard ↔ ofName? s = some standard := by
  unfold parse
  cases ofName? s <;> simp

theorem parse_eq_error_iff {s : String} {failure : RequestFailure} :
    parse s = .error failure ↔ ofName? s = none ∧ failure = .unknownStandard s supported := by
  unfold parse
  cases ofName? s <;> simp [eq_comm]

end Standard

end TokenConformance
