import TokenConformance.Proofs.Collection.Reordering
import TokenConformance.Proofs.Solidity.Replacement
import TokenConformance.Solidity.CompilerOutput

/-! # Compiler output with another tree for one source

Of several sources with one key the last one counts. So another tree in the place of the last one
shows in the source files, and in the place of an earlier one nothing shows.

* `OrderedMap.ofList_of_overwritten`, `OrderedMap.exists_entries_of_last`: maps of lists that differ
  in the value of one key.
* `TreeReplaced`, `OutputEdited`: compiler output, and the same with another tree, or an edit in the
  tree, of one source.
* `OneChanged`: lists that differ in one element, or not at all if it is overwritten.
* `readUnits_of_edited`: what an edit in the output is to the source files.
-/

namespace TokenConformance

/-! ## Maps of lists that differ in one value -/

namespace OrderedMap

variable {κ ν : Type} [Ord κ] {k : κ}

theorem exists_place_self (k : κ) (l : List (κ × ν)) :
    ∃ before after, ∀ v, place k v l = before ++ (k, v) :: after := by
  induction l with
  | nil => exact ⟨[], [], fun _ => rfl⟩
  | cons e rest ih =>
    obtain ⟨before, after, h⟩ := ih
    cases hk : compare k e.1 with
    | lt => exact ⟨[], e :: rest, fun v => by rw [place, hk]; rfl⟩
    | eq => exact ⟨[], rest, fun v => by rw [place, hk]; rfl⟩
    | gt => exact ⟨e :: before, after, fun v => by simp only [place, hk, h, List.cons_append]⟩

variable [Std.TransOrd κ] [Std.LawfulEqOrd κ]

omit [Std.TransOrd κ] in
theorem exists_place_of_ne {k' : κ} (hne : k' ≠ k) (w : ν) (before after : List (κ × ν)) :
    ∃ before' after', ∀ v,
      place k' w (before ++ (k, v) :: after) = before' ++ (k, v) :: after' := by
  induction before with
  | nil =>
    cases hk : compare k' k with
    | lt => exact ⟨[(k', w)], after, fun v => by simp only [List.nil_append, place, hk]; rfl⟩
    | eq => exact absurd (Std.LawfulEqOrd.eq_of_compare hk) hne
    | gt =>
      exact ⟨[], place k' w after, fun v => by simp only [List.nil_append, place, hk]⟩
  | cons e rest ih =>
    obtain ⟨before', after', h⟩ := ih
    cases hk : compare k' e.1 with
    | lt =>
      exact ⟨(k', w) :: e :: rest, after, fun v => by simp only [List.cons_append, place, hk]⟩
    | eq => exact ⟨(k', w) :: rest, after, fun v => by simp only [List.cons_append, place, hk]⟩
    | gt => exact ⟨e :: before', after', fun v => by simp only [List.cons_append, place, hk, h]⟩

/-- Entries of other keys do not move the entry of a key. -/
theorem exists_entries_foldl {l : List (κ × ν)} (hl : k ∉ l.map (·.1))
    (m : ν → OrderedMap κ ν)
    (hm : ∃ before after, ∀ v, (m v).entries = before ++ (k, v) :: after) :
    ∃ before after, ∀ v,
      (l.foldl (fun m e => m.insert e.1 e.2) (m v)).entries = before ++ (k, v) :: after := by
  induction l generalizing m with
  | nil => exact hm
  | cons e l ih =>
    obtain ⟨before, after, hm⟩ := hm
    rw [List.map_cons, List.mem_cons, not_or] at hl
    obtain ⟨before', after', hplace⟩ := exists_place_of_ne (Ne.symm hl.1) e.2 before after
    exact ih hl.2 (fun v => (m v).insert e.1 e.2)
      ⟨before', after', fun v => (congrArg (place e.1 e.2) (hm v)).trans (hplace v)⟩

/-- The last value of a key has its place among the entries, whatever it is. -/
theorem exists_entries_of_last (before : List (κ × ν)) {after : List (κ × ν)}
    (h : k ∉ after.map (·.1)) :
    ∃ before' after', ∀ v,
      (ofList (before ++ (k, v) :: after)).entries = before' ++ (k, v) :: after' := by
  simp only [ofList, List.foldl_append, List.foldl_cons]
  exact exists_entries_foldl h _ (exists_place_self k _)

/-- An earlier value of a key does not show. -/
theorem ofList_of_overwritten [DecidableEq κ] {before after : List (κ × ν)}
    (h : k ∈ after.map (·.1)) (v v' : ν) :
    ofList (before ++ (k, v) :: after) = ofList (before ++ (k, v') :: after) := by
  refine ext fun l => ?_
  rw [find?_ofList, find?_ofList]
  simp only [List.reverse_append, List.reverse_cons, List.append_assoc, List.find?_append]
  by_cases hl : k = l
  · subst hl
    obtain ⟨e, he, hek⟩ := List.mem_map.1 h
    have hsome : (after.reverse.find? fun e => e.1 = k).isSome :=
      List.find?_isSome.2 ⟨e, List.mem_reverse.2 he, decide_eq_true hek⟩
    obtain ⟨d, hd⟩ := Option.isSome_iff_exists.1 hsome
    rw [hd, Option.some_or, Option.some_or]
  · simp only [List.find?_cons, List.find?_nil, hl, decide_false]

end OrderedMap

/-- Two lists that differ in one element, or not at all if it is overwritten. What the element is
made of is related. -/
structure OneChanged {α β : Type} (Q : α → α → Prop) (f : α → β) (overwritten : Prop)
    (l l' : List β) : Prop where
  same : overwritten → l' = l
  changed : ¬overwritten → ∃ before a a' after, Q a a' ∧ l = before ++ f a :: after ∧
    l' = before ++ f a' :: after

namespace OneChanged

variable {α β γ : Type} {Q : α → α → Prop} {f : α → β} {overwritten : Prop} {l l' : List β}

theorem filterMap (h : OneChanged Q f overwritten l l') {g : β → Option γ} {f' : α → γ}
    (hg : ∀ a, g (f a) = some (f' a)) :
    OneChanged Q f' overwritten (l.filterMap g) (l'.filterMap g) where
  same hoverwritten := by rw [h.same hoverwritten]
  changed hlast := by
    obtain ⟨before, a, a', after, haa', rfl, rfl⟩ := h.changed hlast
    refine ⟨before.filterMap g, a, a', after.filterMap g, haa', ?_, ?_⟩
    · rw [List.filterMap_append, List.filterMap_cons_some (hg a)]
    · rw [List.filterMap_append, List.filterMap_cons_some (hg a')]

theorem ne_nil (h : OneChanged Q f overwritten l l') (hl : l ≠ []) : l' ≠ [] := by
  by_cases hoverwritten : overwritten
  · rwa [h.same hoverwritten]
  · obtain ⟨before, a, a', after, -, -, rfl⟩ := h.changed hoverwritten
    simp

end OneChanged

namespace Solidity

open Json (FieldReplaced)

/-! ## The trees of the sources -/

/-- Compiler output, and the same with another tree for a source. Its key may stand among the keys
of later sources again. -/
inductive TreeReplaced (key : String) (later : List (Option String × Json)) (u u' : Json) :
    Json → Json → Prop where
  | intro {w w' j j' : Json} {name : String} (before : List (Option String × Json))
    (hname : name = "AST" ∨ name = "ast") (hsource : FieldReplaced [name] name u u' w w')
    (houtput : FieldReplaced ["sources", "errors"] "sources"
      (.object (before ++ (some key, w) :: later)) (.object (before ++ (some key, w') :: later))
      j j') : TreeReplaced key later u u' j j'

/-- Bytes of compiler output, and bytes of the same with an edit in the tree of a source. -/
structure OutputEdited (edit : NodeSort → Json → Json → Prop) (key : String)
    (later : List (Option String × Json)) (p : Place) (u u' : Json) (bytes bytes' : List UInt8) :
    Prop where
  output : ∃ j j', Json.ofBytes? bytes = some j ∧ Json.ofBytes? bytes' = some j' ∧
    TreeReplaced key later u u' j j'
  edited : Edited edit .unit p u u'
  nesting : WithinNesting u'

/-- A source file with its key for a path that is missing. -/
def SourceUnit.named (key : String) (u : SourceUnit) : SourceUnit :=
  if u.path = "" then { u with path := key } else u

variable {u u' w w' j j' : Json} {key name : String} {later : List (Option String × Json)}
  {Q : SourceUnit → SourceUnit → Prop}

theorem fieldReplaced_renamed (hname : name = "AST" ∨ name = "ast")
    (h : FieldReplaced [name] name u u' w w') :
    FieldReplaced ["AST"] "AST" u u' (w.renameField "ast" "AST") (w'.renameField "ast" "AST") := by
  cases h with
  | object before after =>
    have hrename : ∀ v, (if some name = some "ast" then (some "AST", v) else (some name, v)) =
        ((some "AST", v) : Option String × Json) := by
      rcases hname with rfl | rfl <;> exact fun _ => rfl
    simp only [Json.renameField, List.map_append, List.map_cons, hrename]
    exact .object _ _
  | array before after hcolumn =>
    refine .array before after ?_
    cases before with
    | nil => rfl
    | cons => exact absurd hcolumn (by simp)

theorem carries_readSource (hname : name = "AST" ∨ name = "ast")
    (hsource : FieldReplaced [name] name u u' w w') (hu : u ≠ .null) (hu' : u' ≠ .null)
    (hread : Carries Q (SourceUnit.read u) (SourceUnit.read u')) :
    Carries (fun x x' => ∃ t t', x = some t ∧ x' = some t' ∧ Q t t')
      (CompilerOutput.readSource w) (CompilerOutput.readSource w') :=
  (Json.record?_of_replaced (by decide) (by decide) (fieldReplaced_renamed hname hsource)).bind
    fun _ _ hr => hr.optional hread hu hu'

/-- The keys of sources are those of the fields. -/
theorem mem_keys_sources {fields : List (Option String × Json)} {named : List (String × Json)}
    {sources : List (String × Option SourceUnit)} (hnamed : Json.namedFields? fields = some named)
    (hsources : (named.mapM fun (key, j) => (CompilerOutput.readSource j).map (key, ·)) =
      some sources) : key ∈ sources.map (·.1) ↔ some key ∈ fields.map (·.1) := by
  have hkeys : sources.map (·.1) = named.map (·.1) := by
    refine Json.map_eq_of_mapM_eq_some (fun a b hab => ?_) hsources
    obtain ⟨_, -, rfl⟩ := Option.map_eq_some_iff.1 hab
    rfl
  have hfields : named.map (fun f => some f.1) = fields.map (·.1) := by
    refine Json.map_eq_of_mapM_eq_some (fun a b hab => ?_) hnamed
    obtain ⟨_, h, rfl⟩ := Option.map_eq_some_iff.1 hab
    exact h.symm
  rw [hkeys, ← hfields, List.mem_map, List.mem_map]
  exact exists_congr fun f => and_congr_right fun _ => Option.some_inj.symm

theorem carries_readSources (before : List (Option String × Json))
    (hread : Carries (fun x x' => ∃ t t', x = some t ∧ x' = some t' ∧ Q t t')
      (CompilerOutput.readSource w) (CompilerOutput.readSource w')) :
    Carries (fun sources sources' => OneChanged Q (fun t => (key, some t))
        (some key ∈ later.map (·.1)) sources.entries sources'.entries)
      (CompilerOutput.readSources (.object (before ++ (some key, w) :: later)))
      (CompilerOutput.readSources (.object (before ++ (some key, w') :: later))) := by
  refine (Json.carries_namedFields? key w w' before later).bind ?_
  rintro _ _ ⟨b, a, ha, rfl, rfl⟩
  have hentry : Carries (fun e e' => ∃ t t', e = (key, some t) ∧ e' = (key, some t') ∧ Q t t')
      ((CompilerOutput.readSource w).map (key, ·))
      ((CompilerOutput.readSource w').map (key, ·)) := by
    refine Carries.map_iff.2 (hread.mono ?_)
    rintro _ _ ⟨t, t', rfl, rfl, htt'⟩
    exact ⟨t, t', rfl, rfl, htt'⟩
  intro m hm
  obtain ⟨sources, hsources, hm⟩ := Option.bind_eq_some_iff.1 hm
  obtain rfl := Option.some.inj hm
  obtain ⟨bs, e, cs, hbs, he, hcs, rfl⟩ := Json.mapM_append_cons_eq_some.1 hsources
  obtain ⟨e', he', t, t', rfl, rfl, htt'⟩ := hentry e he
  refine ⟨_, Option.bind_eq_some_iff.2 ⟨_, Json.mapM_append_cons_eq_some.2
    ⟨bs, _, cs, hbs, he', hcs, rfl⟩, rfl⟩, ?_, ?_⟩ <;> rw [← mem_keys_sources ha hcs]
  · intro hoverwritten
    exact congrArg _ (OrderedMap.ofList_of_overwritten hoverwritten _ _)
  · intro hlast
    obtain ⟨before', after', hentries⟩ := OrderedMap.exists_entries_of_last bs hlast
    exact ⟨before', t, t', after', htt', hentries _, hentries _⟩

/-! ## Source files -/

theorem trees_eq (o : CompilerOutput) :
    o.trees = o.sources.entries.filterMap fun e => e.2.map (·.named e.1) := rfl

theorem carries_ofJson? (h : TreeReplaced key later u u' j j') (hu : u ≠ .null) (hu' : u' ≠ .null)
    (hread : Carries Q (SourceUnit.read u) (SourceUnit.read u')) :
    Carries (fun o o' => o'.messages = o.messages ∧
        OneChanged Q (fun t => (key, some t)) (some key ∈ later.map (·.1)) o.sources.entries
          o'.sources.entries)
      (CompilerOutput.ofJson? j) (CompilerOutput.ofJson? j') := by
  obtain ⟨before, hname, hsource, houtput⟩ := h
  refine (Json.record?_of_replaced (by decide) (by decide) houtput).bind fun r r' hr => ?_
  simp (disch := decide) only [hr.withDefault_of_ne]
  exact hr.withDefault_bind
    (carries_readSources before (carries_readSource hname hsource hu hu' hread)) fun _ _ hsources =>
      .bind_same fun _ => .some ⟨rfl, hsources⟩

theorem units_eq_ok_iff {o : CompilerOutput} {units : List SourceUnit} :
    o.units = .ok units ↔ o.errors = [] ∧ o.trees ≠ [] ∧ o.trees = units := by
  rw [CompilerOutput.units]
  split
  · next herrors => simp [herrors]
  · next herrors =>
    rw [not_not] at herrors
    split
    · next htrees => simp [htrees]
    · next htrees => simp [herrors, htrees]

/-- An edit in the tree of a source is an edit in the source file of its key. -/
theorem readUnits_of_edited {edit : NodeSort → Json → Json → Prop} {R : Node → Node → Prop}
    {p : Place} {bytes bytes' : List UInt8} {units : List SourceUnit} (hedit : ReadsAs edit R)
    (hunits : readUnits bytes = .ok units)
    (h : OutputEdited edit key later p u u' bytes bytes') :
    ∃ units', readUnits bytes' = .ok units' ∧
      OneChanged (fun t t' => Node.At R p (.unit t) (.unit t') ∧ SourceUnit.read u = some t ∧
        SourceUnit.read u' = some t') (·.named key) (some key ∈ later.map (·.1)) units units' := by
  obtain ⟨⟨j, j', hj, hj', htree⟩, hedited, hnesting⟩ := h
  obtain ⟨hu, hu'⟩ := ne_null_of_edited hedit.ne_null hedited
  have hread := (Carries.map_iff.1 (carries_unit_of_edited hedit hedited hnesting)).with_eq
  have houtput := carries_ofJson? htree hu hu' hread
  rw [readUnits, CompilerOutput.ofBytes?, hj, Option.bind_some] at hunits
  cases ho : CompilerOutput.ofJson? j with
  | none => simp [ho] at hunits
  | some o =>
    obtain ⟨o', ho', hmessages, hsources⟩ := houtput o ho
    simp only [ho] at hunits
    obtain ⟨herrors, hne, rfl⟩ := units_eq_ok_iff.1 hunits
    have hchanged := hsources.filterMap (g := fun e => e.2.map (·.named e.1)) fun _ => rfl
    rw [← trees_eq, ← trees_eq] at hchanged
    refine ⟨o'.trees, ?_, hchanged⟩
    rw [readUnits, CompilerOutput.ofBytes?, hj', Option.bind_some, ho']
    refine units_eq_ok_iff.2 ⟨?_, hchanged.ne_nil hne, rfl⟩
    rw [← herrors, CompilerOutput.errors, CompilerOutput.errors, hmessages]

end Solidity

end TokenConformance
