import TokenConformance.Proofs.Hierarchy.OtherMembers
import TokenConformance.Proofs.Solidity.Sources
import TokenConformance.Proofs.Text.Utf8

/-! # Output of later compilers

* `flatten_of_inserted`: source files with one member of another kind more.
* `readUnits_forwardCompatible`: compiler output with a foreign member, with a foreign statement or
  expression, and with a field that is not declared.
* `SmallOutput`: all of these in the output for a small contract.
-/

namespace TokenConformance.Hierarchy

open Solidity

theorem knownUnit_named {key : String} {u u' : SourceUnit} (h : knownUnit u' = knownUnit u) :
    knownUnit (u'.named key) = knownUnit (u.named key) := by
  obtain ⟨hpath, hmembers⟩ := SourceUnit.mk.inj h
  rw [SourceUnit.named, SourceUnit.named, hpath]
  split
  · rw [knownUnit, knownUnit, hmembers]
  · exact h

/-- A member of another kind more, in one source file, changes no flat contract. -/
theorem flatten_of_inserted {Q : SourceUnit → SourceUnit → Prop} {key : String}
    {overwritten : Prop} {units units' : List SourceUnit}
    (h : OneChanged Q (·.named key) overwritten units units')
    (hQ : ∀ u u', Q u u' → knownUnit u' = knownUnit u) (name sourcePath : String)
    (libraryPrefixes : List String) :
    flatten units' name sourcePath libraryPrefixes =
      flatten units name sourcePath libraryPrefixes := by
  by_cases hoverwritten : overwritten
  · rw [h.same hoverwritten]
  · obtain ⟨before, t, t', after, htt', rfl, rfl⟩ := h.changed hoverwritten
    rw [← flatten_known, ← flatten_known (before ++ t.named key :: after)]
    simp only [List.map_append, List.map_cons, knownUnit_named (hQ t t' htt')]

/-- Output with foreign members, bodies or fields is accepted where it is accepted without them. A
foreign member changes no flat contract. A foreign object in the place of a statement or an
expression is `other` there, and everything else is what it has been. A field that is not declared
changes nothing, whether it is new or has another value; so neither does anything inside it. -/
theorem readUnits_forwardCompatible {bytes : List UInt8} {units : List SourceUnit}
    (h : readUnits bytes = .ok units) :
    (∀ o key later p u u' bytes', o.isReadable = true →
      OutputEdited (MemberInserted o) key later p u u' bytes bytes' →
      ∃ units', readUnits bytes' = .ok units' ∧ ∀ name sourcePath libraryPrefixes,
        flatten units' name sourcePath libraryPrefixes =
          flatten units name sourcePath libraryPrefixes) ∧
    (∀ o key later p u u' bytes', o.isReadable = true →
      OutputEdited (BodyReplaced o) key later p u u' bytes bytes' →
      ∃ units', readUnits bytes' = .ok units' ∧
        OneChanged (fun t t' => Node.At BecomesOther p (.unit t) (.unit t') ∧
          SourceUnit.read u = some t ∧ SourceUnit.read u' = some t') (·.named key)
          (some key ∈ later.map (·.1)) units units') ∧
    ∀ key later p u u' bytes', OutputEdited Extended key later p u u' bytes bytes' →
      readUnits bytes' = .ok units := by
  refine ⟨fun o key later p u u' bytes' ho hedited => ?_,
    fun o key later p u u' bytes' ho hedited =>
      readUnits_of_edited (bodyReplaced_readsAs ho) h hedited,
    fun key later p u u' bytes' hedited => ?_⟩
  · obtain ⟨units', hunits', hchanged⟩ :=
      readUnits_of_edited (memberInserted_readsAs ho) h hedited
    exact ⟨units', hunits',
      flatten_of_inserted hchanged fun _ _ ht => knownUnit_eq_of_inserted ht.1⟩
  · obtain ⟨units', hunits', hchanged⟩ := readUnits_of_edited extended_readsAs h hedited
    by_cases hoverwritten : some key ∈ later.map (·.1)
    · rwa [hchanged.same hoverwritten] at hunits'
    · obtain ⟨before, t, t', after, ⟨ht, -, -⟩, rfl, rfl⟩ := hchanged.changed hoverwritten
      obtain rfl : t = t' := Node.unit.inj ht.eq
      exact hunits'

/-! ## The output for a small contract -/

namespace SmallOutput

/-- The value that the function returns. -/
def value (more : List (Option String × Json)) : Json :=
  .object ([(some "nodeType", .ofString "Identifier"), (some "name", .ofString "supply")] ++ more)

def statement (value : Json) : Json :=
  .object [(some "nodeType", .ofString "Return"), (some "expression", value)]

def function (value : Json) : Json :=
  .object [(some "nodeType", .ofString "FunctionDefinition"),
    (some "name", .ofString "totalSupply"), (some "visibility", .ofString "external"),
    (some "stateMutability", .ofString "view"),
    (some "body", .object [(some "statements", .array [statement value])])]

def contract (members : List Json) : Json :=
  .object [(some "nodeType", .ofString "ContractDefinition"), (some "id", .ofInt 1),
    (some "name", .ofString "Token"), (some "nodes", .array members)]

def tree (members : List Json) : Json := .object [(some "nodes", .array [contract members])]

def output (tree : Json) : Json :=
  .object [(some "sources",
    .object [(some "Token.sol", .object [(some "AST", tree)])])]

def bytes (tree : Json) : List UInt8 := Text.Utf8.encode (output tree).pretty

/-- A node of a later compiler. -/
def foreign : Json :=
  .object [(some "nodeType", .ofString "TransientBlock"), (some "lines", .array [.ofInt 3])]

/-- What is read of it. -/
def units (value : Expression) : List SourceUnit :=
  [⟨"Token.sol", [.contract {
    id := 1, name := "Token", kind := "contract", isAbstract := false, linearizedBases := [],
    members := [.function {
      id := 0, name := "totalSupply", kind := "function", visibility := "external",
      mutability := "view", parameters := [], returns := [], modifiers := [],
      body := some [.ret (some value)] }] }]⟩]

attribute [local simp] tree contract function statement value foreign Json.ofString Json.ofInt
  Number.ofInt

theorem ofBytes?_bytes {u : Json} (hu : Json.Writable u) :
    Json.ofBytes? (bytes u) = some (output u) :=
  Json.ofBytes?_pretty (by simpa [output] using hu)

theorem readUnits_bytes : readUnits (bytes (tree [function (value [])])) =
    .ok (units (.identifier "supply" none)) := by
  rw [readUnits, CompilerOutput.ofBytes?, ofBytes?_bytes (by simp)]
  rfl

section Edited

variable {edit : NodeSort → Json → Json → Prop} {p : Place}

theorem outputEdited {u u' : Json} (hu : Json.Writable u) (hu' : Json.Writable u')
    (hedited : Edited edit .unit p u u') (hnesting : WithinNesting u') :
    OutputEdited edit "Token.sol" [] p u u' (bytes u) (bytes u') where
  output := ⟨output u, output u', ofBytes?_bytes hu, ofBytes?_bytes hu',
    .intro [] (.inl rfl) (.object [] []) (.object [] [])⟩
  edited := hedited
  nesting := hnesting

/-- An edit in the contract is one in the file. -/
theorem edited_tree {members members' : List Json}
    (h : Edited edit .member p (contract members) (contract members')) :
    Edited edit .unit (.item "nodes" 0 :: p) (tree members) (tree members') :=
  .item [] [] rfl (by decide) (.object [] []) h

/-- An edit of the returned value is one in the contract. -/
theorem edited_contract {v v' : Json} (h : Edited edit .expression p v v') :
    Edited edit .member (.item "nodes" 0 :: .field "body" :: .item "statements" 0 ::
      .field "expression" :: p) (contract [function v]) (contract [function v']) :=
  .item (t := .contractMember) [] [] rfl (by decide) (.object [_, _, _] []) <|
    .field (t := .block) rfl (by decide) (.object [_, _, _, _] []) <|
    .item (t := .statement) [] [] rfl (by decide) (.object [] []) <|
    .field rfl (by decide) (.object [_] []) h

end Edited

/-- The function and after it a member of a later compiler. -/
def withMember : Json := tree [function (value []), foreign]

/-- The function with an expression of a later compiler. -/
def withExpression : Json := tree [function foreign]

/-- The function, with a further field of the expression. -/
def withField : Json := tree [function (value [(some "src", .ofString "26:6:0")])]

/-- The place of the returned value. -/
def valuePlace : Place :=
  [.item "nodes" 0, .item "nodes" 0, .field "body", .item "statements" 0, .field "expression"]

theorem member_inserted : OutputEdited (MemberInserted foreign) "Token.sol" [] [.item "nodes" 0]
    (tree [function (value [])]) withMember (bytes (tree [function (value [])]))
    (bytes withMember) := by
  have hforeign : Foreign ContractMember.kinds foreign := .object rfl (by decide)
  refine outputEdited (by simp) (by simp [withMember]) (edited_tree (.here ?_)) (by decide)
  exact .contract [function (value [])] [] hforeign rfl (.object [_, _, _] [])

theorem expression_replaced : OutputEdited (BodyReplaced foreign) "Token.sol" [] valuePlace
    (tree [function (value [])]) withExpression (bytes (tree [function (value [])]))
    (bytes withExpression) := by
  have hforeign : Foreign Expression.kinds foreign := .object rfl (by decide)
  refine outputEdited (by simp) (by simp [withExpression])
    (edited_tree (edited_contract (.here ?_))) (by decide)
  exact .expression nofun hforeign

theorem field_added : OutputEdited Extended "Token.sol" [] valuePlace
    (tree [function (value [])]) withField (bytes (tree [function (value [])]))
    (bytes withField) := by
  have hkind : NodeSort.expression.tagged? (value []) =
      some ("Identifier", .object [(some "name", .ofString "supply")]) := rfl
  refine outputEdited (by simp) (by simp [withField])
    (edited_tree (edited_contract (.here ?_))) (by decide)
  exact .intro hkind (by decide) (.inr rfl) (.added [_, _] [])

/-- The member does not show in the flat contract, the expression is read as `other`, and the field
does not show at all. -/
theorem forwardCompatible_foreign :
    readUnits (bytes (tree [function (value [])])) = .ok (units (.identifier "supply" none)) ∧
    foreign.isReadable = true ∧
    (∃ units', readUnits (bytes withMember) = .ok units' ∧
      flatten units' "Token" "Token.sol" ["lib/"] =
        flatten (units (.identifier "supply" none)) "Token" "Token.sol" ["lib/"]) ∧
    (∃ units', readUnits (bytes withExpression) = .ok units' ∧
      OneChanged (fun t t' => Node.At BecomesOther valuePlace (.unit t) (.unit t') ∧
        SourceUnit.read (tree [function (value [])]) = some t ∧
        SourceUnit.read withExpression = some t') (·.named "Token.sol") False
        (units (.identifier "supply" none)) units') ∧
    readUnits (bytes withField) = .ok (units (.identifier "supply" none)) := by
  have hforeign : foreign.isReadable = true := rfl
  obtain ⟨hmember, hbody, hfield⟩ := readUnits_forwardCompatible readUnits_bytes
  obtain ⟨units', hunits', hflat⟩ := hmember _ _ _ _ _ _ _ hforeign member_inserted
  obtain ⟨units'', hunits'', hchanged⟩ := hbody _ _ _ _ _ _ _ hforeign expression_replaced
  refine ⟨readUnits_bytes, hforeign, ⟨units', hunits', hflat _ _ _⟩, ⟨units'', hunits'', ?_⟩,
    hfield _ _ _ _ _ _ field_added⟩
  simpa using hchanged

end SmallOutput

end TokenConformance.Hierarchy
