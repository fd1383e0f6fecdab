import TokenConformance.Proofs.Hierarchy.Consistency
import TokenConformance.Proofs.Hierarchy.MostDerived

/-! # Getters of nested types

The type of a public state variable is a nest of mappings and arrays, of whatever depth and in
whatever order, around an innermost type.

* `Nest`: a type with the parameters that its levels ask for, from the outside in, and its innermost
  type.
* `Nest.getterTypes_eq`: the walk through a type finds these.
* `accessor`: a public view function with such parameters and one result.
* `admits_accessor_iff`, `Consistent.find?_eq_some_iff`: which templates with its name and types it
  fits, and that no other function of a contract matters to them.
* `getter_of_nest`: the getter of the variable, and the templates that find it in a flat contract.
-/

namespace TokenConformance

open Solidity

/-! ## Types -/

namespace Hierarchy

/-- A type is a nest of mappings and arrays. There is one parameter for each of its levels, from the
outside in: the key of a mapping, and a number for an array. -/
inductive Nest : TypeName → List String → String → Prop where
  | innermost {t : TypeName} {written : String} (hmapping : t.nodeType ≠ "Mapping")
      (harray : t.nodeType ≠ "ArrayTypeName") (hwritten : t.descriptions.typeString = some written) :
      Nest t [] (canonicalType written)
  | mapping {t key value : TypeName} {written innermost : String} {types : List String}
      (hnode : t.nodeType = "Mapping") (hkey : t.key = some key)
      (hwritten : key.descriptions.typeString = some written) (hvalue : t.value = some value)
      (h : Nest value types innermost) : Nest t (canonicalType written :: types) innermost
  | array {t base : TypeName} {innermost : String} {types : List String}
      (hnode : t.nodeType = "ArrayTypeName") (hbase : t.base = some base)
      (h : Nest base types innermost) : Nest t ("uint256" :: types) innermost

theorem getterTypes_eq (t : TypeName) :
    getterTypes t =
      if t.nodeType = "Mapping" then
        ((t.key.map fun k => describedType k.descriptions).getD "" :: (getterTypesOf t.value).1,
          (getterTypesOf t.value).2)
      else if t.nodeType = "ArrayTypeName" then
        ("uint256" :: (getterTypesOf t.base).1, (getterTypesOf t.base).2)
      else ([], t.descriptions.typeString.map canonicalType) := by
  cases t
  rw [getterTypes]

theorem Nest.getterTypes_eq {t : TypeName} {types : List String} {innermost : String}
    (h : Nest t types innermost) : getterTypes t = (types, some innermost) := by
  induction h with
  | innermost hmapping harray hwritten =>
    rw [Hierarchy.getterTypes_eq, if_neg hmapping, if_neg harray, hwritten, Option.map_some]
  | @mapping t key value written innermost types hnode hkey hwritten hvalue _ ih =>
    have hlevel : (t.key.map fun k => describedType k.descriptions).getD "" =
        canonicalType written := by
      rw [hkey, Option.map_some, Option.getD_some, describedType, hwritten, Option.map_some,
        Option.getD_some]
    rw [Hierarchy.getterTypes_eq, if_pos hnode, hlevel, hvalue, getterTypesOf, ih]
  | @array t base innermost types hnode hbase _ ih =>
    have hmapping : t.nodeType ≠ "Mapping" := by
      rw [hnode]
      decide
    rw [Hierarchy.getterTypes_eq, if_neg hmapping, if_pos hnode, hbase, getterTypesOf, ih]

/-- A public view function with one result and without modifiers, its parameters unnamed. -/
def accessor (name : String) (types : List String) (result declaredIn : String) : FunctionShape where
  name
  parameters := types.map (⟨"", ·⟩)
  returns := [result]
  visibility := .publicAccess
  mutability := .view
  modifiers := .empty
  declaredIn

theorem selector_accessor (name : String) (types : List String) (result declaredIn : String) :
    (accessor name types result declaredIn).selector = ⟨name, types⟩ := by
  simp [FunctionShape.selector, FunctionShape.types, accessor, Function.comp_def]

theorem Nest.getterShape_eq {v : VariableDeclaration} {t : TypeName} {types : List String}
    {innermost : String} (ht : v.typeName = some t) (h : Nest t types innermost)
    (declaredIn : String) :
    getterShape declaredIn v = accessor v.name types innermost declaredIn := by
  rw [getterShape, ht, getterTypesOf, h.getterTypes_eq]
  rfl

end Hierarchy

/-! ## Templates -/

/-- The template with the identity of a function finds that function or nothing. -/
theorem Consistent.find?_eq_some_iff {c : FlatContract} (hc : Consistent c) {t : FunctionTemplate}
    {f g : FunctionShape} (hf : f ∈ c.functions) (hselector : f.selector = ⟨t.name, t.types⟩) :
    t.find? c.functions = some g ↔ g = f ∧ t.admits f = true := by
  constructor
  · intro hg
    have hadmits : t.admits g = true := List.find?_some hg
    have hgf : g = f := hc.eq_of_selector_eq (List.mem_of_find?_eq_some hg) hf
      ((FunctionTemplate.selector_of_admits hadmits).trans hselector.symm)
    exact ⟨hgf, hgf ▸ hadmits⟩
  · rintro ⟨rfl, hadmits⟩
    exact hc.find?_of_admits hf hadmits

namespace Hierarchy

theorem admits_accessor_iff {t : FunctionTemplate} {name result declaredIn : String}
    {types : List String} (hname : t.name = name) (htypes : t.types = types) :
    t.admits (accessor name types result declaredIn) = true ↔
      (t.returns = none ∨ t.returns = some [result]) ∧
        (t.mutability = none ∨ t.mutability = some .view) := by
  have hidentity : (accessor name types result declaredIn).selector = ⟨t.name, t.types⟩ := by
    rw [selector_accessor, hname, htypes]
  obtain ⟨hsame, hparameters⟩ := Selector.mk.inj hidentity
  have hreturns : t.returnsMatch (accessor name types result declaredIn) = true ↔
      t.returns = none ∨ t.returns = some [result] := by
    cases hr : t.returns <;> simp [FunctionTemplate.returnsMatch, hr, accessor, eq_comm]
  have hvisible : t.visibilityMatches (accessor name types result declaredIn) = true := by
    simp [FunctionTemplate.visibilityMatches, accessor, Visibility.isOpen]
  have hmutability : t.mutabilityMatches (accessor name types result declaredIn) = true ↔
      t.mutability = none ∨ t.mutability = some .view := by
    cases hm : t.mutability <;> simp [FunctionTemplate.mutabilityMatches, hm, accessor, eq_comm]
  simp only [FunctionTemplate.admits, hsame, hparameters, hvisible, Bool.and_eq_true,
    decide_true, true_and, and_true, hreturns, hmutability]

theorem Flattening.accessor_mem {units : List SourceUnit} {name sourcePath : String}
    {libraryPrefixes : List String} {t : Located} {hierarchy : List Located}
    {cs : List ShapedCallable} {c : FlatContract}
    (h : Flattening units name sourcePath libraryPrefixes t hierarchy cs c)
    {v : VariableDeclaration} {type : TypeName} {types : List String} {innermost : String}
    (htype : v.typeName = some type) (hnest : Nest type types innermost) {l : Located}
    (hfirst : firstCallable? (members hierarchy) ⟨v.name, types⟩ = some (l, .getter v)) :
    accessor v.name types innermost l.contract.name ∈ c.functions := by
  obtain ⟨f, hshape, -, hfilter, -⟩ := h.mostDerivedWins.present _ l _ hfirst
  have hf : accessor v.name types innermost l.contract.name = f :=
    (hnest.getterShape_eq htype l.contract.name).symm.trans (Except.ok.inj hshape)
  exact hf ▸ List.mem_of_mem_filter (hfilter ▸ List.mem_singleton_self f)

/-- The getter of a public variable with a nested type has one parameter for each level of the nest
and returns the innermost type. Where the variable is the first declaration of that identity in a
hierarchy, a template with the identity finds something in the flat contract if and only if it asks
for nothing or just that as results, and for nothing or a view function. -/
theorem getter_of_nest {v : VariableDeclaration} {type : TypeName} {types : List String}
    {innermost : String} (hpublic : v.visibility = "public") (htype : v.typeName = some type)
    (hnest : Nest type types innermost) :
    callable? (.variable v) = some (.getter v) ∧
      (∀ names declaredIn, (Callable.getter v).shape names declaredIn =
        .ok (accessor v.name types innermost declaredIn)) ∧
      ∀ units name sourcePath libraryPrefixes c target l,
        flatten units name sourcePath libraryPrefixes = .ok c →
        Hierarchy.target units name sourcePath = .ok target →
        firstCallable? (members (ancestry units target.contract)) ⟨v.name, types⟩ =
          some (l, .getter v) →
        ∀ t : FunctionTemplate, t.name = v.name → t.types = types →
          ((∃ f, t.find? c.functions = some f) ↔
            (t.returns = none ∨ t.returns = some [innermost]) ∧
              (t.mutability = none ∨ t.mutability = some .view)) := by
  refine ⟨if_pos hpublic, fun names declaredIn => ?_, ?_⟩
  · rw [Callable.shape, hnest.getterShape_eq htype]
  · intro units name sourcePath libraryPrefixes c target l hc htarget hfirst t hname htypes
    obtain ⟨target', hierarchy, cs, h⟩ := exists_flattening hc
    obtain rfl := Except.ok.inj (htarget.symm.trans h.target)
    obtain rfl := h.ancestry
    have hmem := h.accessor_mem htype hnest hfirst
    have hselector : (accessor v.name types innermost l.contract.name).selector =
        ⟨t.name, t.types⟩ := by
      rw [selector_accessor, hname, htypes]
    have hadmits : t.admits (accessor v.name types innermost l.contract.name) = true ↔
        (t.returns = none ∨ t.returns = some [innermost]) ∧
          (t.mutability = none ∨ t.mutability = some .view) := admits_accessor_iff hname htypes
    rw [← hadmits]
    constructor
    · rintro ⟨f, hf⟩
      exact ((h.consistent.find?_eq_some_iff hmem hselector).1 hf).2
    · intro hfits
      exact ⟨_, (h.consistent.find?_eq_some_iff hmem hselector).2 ⟨rfl, hfits⟩⟩

/-! ## A getter with three parameters

The getter stands in the place of a function of the base that may change the state. -/

namespace Vaults

/-- A type without parts. -/
def plain (nodeType written : String) : TypeName := ⟨nodeType, ⟨some written⟩, none, none, none⟩

/-- The type `mapping(address => mapping(uint => Vault)[])`. -/
def vaultsType : TypeName :=
  let inner : TypeName := {
    nodeType := "Mapping"
    descriptions := ⟨none⟩
    key := some (plain "ElementaryTypeName" "uint")
    value := some (plain "UserDefinedTypeName" "contract Vault")
    base := none }
  { nodeType := "Mapping"
    descriptions := ⟨none⟩
    key := some (plain "ElementaryTypeName" "address")
    value := some ⟨"ArrayTypeName", ⟨none⟩, none, none, some inner⟩
    base := none }

def vaults : VariableDeclaration :=
  { Sample.supply with id := 41, name := "vaults", typeName := some vaultsType }

def baseVaults : FunctionDefinition :=
  { Sample.baseSupply with
    id := 42
    name := "vaults"
    mutability := "nonpayable"
    parameters := [Sample.parameter 43 "" "address", Sample.parameter 44 "" "uint256",
      Sample.parameter 45 "" "uint256"] }

def units : List SourceUnit :=
  [⟨"Base.sol", [.contract { Sample.base with members := [.function baseVaults] }]⟩,
    ⟨"Token.sol", [.contract { Sample.token with members := [.variable vaults] }]⟩]

def template (mutability : Mutability) : FunctionTemplate :=
  { FunctionTemplate.callable "vaults" ["address", "uint256", "uint256"] ["address"] with
    mutability := some mutability }

theorem nest_vaultsType : Nest vaultsType ["address", "uint256", "uint256"] "address" := by
  have hinnermost : Nest (plain "UserDefinedTypeName" "contract Vault") []
      (canonicalType "contract Vault") := .innermost (by decide) (by decide) rfl
  have hnest : Nest vaultsType [canonicalType "address", "uint256", canonicalType "uint"]
      (canonicalType "contract Vault") :=
    .mapping rfl rfl rfl rfl (.array rfl rfl (.mapping rfl rfl rfl rfl hinnermost))
  exact hnest

theorem flatten_units : ∃ c, flatten units "Token" "Token.sol" [] = .ok c := exists_of_isOk rfl

/-- The view function is found, and the one that may change the state is hidden. -/
theorem getter_vaults :
    vaults.visibility = "public" ∧ vaults.typeName = some vaultsType ∧
      Nest vaultsType ["address", "uint256", "uint256"] "address" ∧
      ∃ c, flatten units "Token" "Token.sol" [] = .ok c ∧
        (∃ f, (template .view).find? c.functions = some f) ∧
        ¬∃ f, (template .nonpayable).find? c.functions = some f := by
  obtain ⟨c, hc⟩ := flatten_units
  obtain ⟨-, -, hfinds⟩ := getter_of_nest (v := vaults) rfl rfl nest_vaultsType
  have hiff := hfinds units "Token" "Token.sol" [] c _ _ hc rfl rfl
  refine ⟨rfl, rfl, nest_vaultsType, c, hc, ?_, ?_⟩
  · exact (hiff (template .view) rfl rfl).2 ⟨.inr rfl, .inr rfl⟩
  · rw [hiff (template .nonpayable) rfl rfl]
    decide

end Vaults

end Hierarchy

end TokenConformance
