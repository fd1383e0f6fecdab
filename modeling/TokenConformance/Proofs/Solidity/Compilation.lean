import Mathlib.Data.List.Forall2
import TokenConformance.Proofs.Solidity.Sources
import TokenConformance.Proofs.Text.ByteOrder
import TokenConformance.Proofs.Text.LetterCase
import TokenConformance.Proofs.Text.Utf8

/-! # What a compilation comes to

The source files that are got from compiler output, or why there are none, said apart from the steps
that look for them. How a tree is named and what else the compiler says does not matter.

* `IsErrorWord`: the word of an error, in letters of any case.
* `CompilerOutput.Gives`: errors before anything else, then whether there are trees at all, then one
  source file for each tree in the order of the bytes of the keys.
* `Json.RecordsRelated`, `record?_related`: records whose fields are related one by one.
* `Respelled`, `SameErrors`, `Reworded`: output in which trees stand under the other name and there
  are more or fewer messages that are no errors.
* `readUnits_eq_iff_gives`, `readUnits_of_reworded`: the two halves.
* `readUnits_exact`: all of it for the bytes of compiler output.
-/

namespace TokenConformance

/-! ## Readings that are related -/

section Related

variable {α β γ δ : Type} {R : α → β → Prop} {Q : γ → δ → Prop}

theorem rel_bind {x : Option α} {y : Option β} {f : α → Option γ} {g : β → Option δ}
    (h : Option.Rel R x y) (hfg : ∀ a b, R a b → Option.Rel Q (f a) (g b)) :
    Option.Rel Q (x.bind f) (y.bind g) := by
  cases h with
  | none => exact .none
  | some hab => exact hfg _ _ hab

theorem rel_of_eq {x y : Option α} (h : x = y) : Option.Rel Eq x y := by
  subst h
  cases x with
  | none => exact .none
  | some a => exact .some rfl

theorem eq_of_rel {x y : Option α} (h : Option.Rel Eq x y) : x = y := by
  cases h with
  | none => rfl
  | some h => exact congrArg some h

theorem mapM_related {f : α → Option γ} {g : β → Option δ} {l : List α} {m : List β}
    (h : List.Forall₂ R l m) (hfg : ∀ a b, R a b → Option.Rel Q (f a) (g b)) :
    Option.Rel (List.Forall₂ Q) (l.mapM f) (m.mapM g) := by
  induction h with
  | nil => exact .some .nil
  | cons hab _ ih =>
    rw [List.mapM_cons, List.mapM_cons]
    exact rel_bind (hfg _ _ hab) fun c d hcd => rel_bind ih fun cs ds hcds => .some (.cons hcd hcds)

end Related

namespace Json

/-- Two records, written both as objects or both as arrays, whose fields have the same names and
related values. -/
inductive RecordsRelated (names : List String) (R : String → Json → Json → Prop) :
    Json → Json → Prop where
  | object {fields fields' : List (Option String × Json)}
      (h : List.Forall₂ (fun f f' => f'.1 = f.1 ∧ ∀ name, f.1 = some name → R name f.2 f'.2)
        fields fields') : RecordsRelated names R (.object fields) (.object fields')
  | array {items items' : List Json} (hlength : items'.length = items.length)
      (h : List.Forall₂ (fun f f' => f'.1 = f.1 ∧ R f.1 f.2 f'.2) (names.zip items)
        (names.zip items')) : RecordsRelated names R (.array items) (.array items')

variable {names : List String} {R : String → Json → Json → Prop} {j j' : Json}

/-- The fields of one record are related to those of the other one. -/
def Related (R : String → Json → Json → Prop) (r r' : Record) : Prop :=
  ∀ name, Option.Rel (R name) (r.find? name) (r'.find? name)

theorem related_of_forall₂ {fields fields' : List (String × Json)}
    (h : List.Forall₂ (fun f f' => f'.1 = f.1 ∧ R f.1 f.2 f'.2) fields fields') (p : Bool) :
    Related R ⟨p, fields⟩ ⟨p, fields'⟩ := by
  intro name
  unfold Record.find?
  dsimp only
  induction h with
  | nil => exact .none
  | @cons f f' _ _ hff' _ ih =>
    obtain ⟨hname, hvalue⟩ := hff'
    rw [List.find?_cons, List.find?_cons, hname]
    by_cases hf : f.1 = name
    · rw [decide_eq_true hf]
      exact .some (hf ▸ hvalue)
    · rw [decide_eq_false hf]
      exact ih

theorem record?_related (h : RecordsRelated names R j j') :
    Option.Rel (Related R) (j.record? names) (j'.record? names) := by
  cases h with
  | object h =>
    refine rel_bind (mapM_related (Q := fun f f' => f'.1 = f.1 ∧ R f.1 f.2 f'.2) h ?_) ?_
    · rintro ⟨_ | name, v⟩ ⟨name', v'⟩ ⟨rfl, hv⟩
      · exact .none
      · exact .some ⟨rfl, hv name rfl⟩
    · intro fields fields' hfields
      have hknown := List.rel_filter (p := fun f => f.1 ∈ names) (q := fun f => f.1 ∈ names)
        (fun f f' hff' => by simp [hff'.1]) hfields
      have hnames : (fields'.filter fun f => f.1 ∈ names).map (·.1) =
          (fields.filter fun f => f.1 ∈ names).map (·.1) := by
        rw [← List.forall₂_eq_eq_eq, List.forall₂_map_left_iff, List.forall₂_map_right_iff]
        exact hknown.flip.imp fun _ _ hff' => hff'.1
      simp only [hnames]
      split
      · exact .some (related_of_forall₂ hknown false)
      · exact .none
  | array hlength h =>
    simp only [record?, hlength]
    split
    · exact .some (related_of_forall₂ h true)
    · exact .none

namespace Related

variable {α β : Type} {Q : α → α → Prop} {r r' : Record} {name : String}
  {read : Json → Option α}

theorem withDefault (h : Related R r r') {d : α} (hd : Q d d)
    (hread : ∀ v v', R name v v' → Option.Rel Q (read v) (read v')) :
    Option.Rel Q (r.withDefault name d read) (r'.withDefault name d read) := by
  have hfind := h name
  unfold Record.withDefault
  cases hv : r.find? name with
  | none =>
    rw [hv] at hfind
    cases hv' : r'.find? name with
    | none => exact .some hd
    | some v' => rw [hv'] at hfind; cases hfind
  | some v =>
    rw [hv] at hfind
    cases hv' : r'.find? name with
    | none => rw [hv'] at hfind; cases hfind
    | some v' =>
      rw [hv'] at hfind
      cases hfind with
      | some hvv' => exact hread v v' hvv'

end Related

end Json

namespace Solidity

open Json (RecordsRelated)

/-! ## Errors -/

/-- The word `error`, each of its letters small or capital. -/
def IsErrorWord (s : String) : Prop :=
  List.Forall₂ (fun c letter => c = letter ∨ c = letter.toUpper) s.toList "error".toList

theorem isError_iff {m : CompilerMessage} : m.isError = true ↔ IsErrorWord m.severity := by
  have hletters : ∀ letter ∈ "error".toList, letter.isLower = true :=
    List.all_eq_true.1 (by decide)
  rw [CompilerMessage.isError, decide_eq_true_iff, ← List.forall₂_eq_eq_eq,
    List.forall₂_map_left_iff, IsErrorWord, List.forall₂_iff_zip, List.forall₂_iff_zip]
  refine and_congr_right fun _ => forall₂_congr fun c letter => forall_congr' fun hmem => ?_
  exact Text.toLower_eq_iff (hletters letter (List.of_mem_zip hmem).2)

instance (s : String) : Decidable (IsErrorWord s) :=
  decidable_of_iff ((⟨s, "", none⟩ : CompilerMessage).isError = true) isError_iff

theorem filter_isError (ms : List CompilerMessage) :
    ms.filter CompilerMessage.isError = ms.filter fun m => IsErrorWord m.severity :=
  List.filter_congr fun m _ => by rw [Bool.eq_iff_iff, isError_iff, decide_eq_true_iff]

/-! ## What output gives -/

namespace CompilerOutput

variable {o : CompilerOutput} {bytes : List UInt8}
  {result : Except SourceFailure (List SourceUnit)}

/-- The texts of all messages that are errors, in their order. -/
def errorTexts (o : CompilerOutput) : List String :=
  (o.messages.filter fun m => IsErrorWord m.severity).map fun m => m.formatted.getD m.message

/-- A source has a tree. -/
def HasTree (o : CompilerOutput) (key : String) (u : SourceUnit) : Prop :=
  o.sources.find? key = some (some u)

/-- What compiler output comes to. -/
inductive Gives (o : CompilerOutput) : Except SourceFailure (List SourceUnit) → Prop where
  | failed (h : ∃ m ∈ o.messages, IsErrorWord m.severity) :
      Gives o (.error (.compilationFailed ("\n".intercalate o.errorTexts)))
  | treeless (hmessages : ∀ m ∈ o.messages, ¬IsErrorWord m.severity)
      (h : ∀ key u, ¬o.HasTree key u) : Gives o (.error .noSyntaxTree)
  | units (hmessages : ∀ m ∈ o.messages, ¬IsErrorWord m.severity)
      {trees : List (String × SourceUnit)} (hne : trees ≠ [])
      (hincreasing : trees.Pairwise fun a b => Text.Utf8.encode a.1 < Text.Utf8.encode b.1)
      (hmem : ∀ key u, (key, u) ∈ trees ↔ o.HasTree key u) :
      Gives o (.ok (trees.map fun (key, u) => if u.path = "" then { u with path := key } else u))

theorem errors_eq (o : CompilerOutput) : o.errors = o.errorTexts := by
  rw [errors, errorTexts, filter_isError]
  rfl

theorem errors_eq_nil_iff : o.errors = [] ↔ ∀ m ∈ o.messages, ¬IsErrorWord m.severity := by
  rw [errors_eq, errorTexts, List.map_eq_nil_iff, List.filter_eq_nil_iff]
  simp

/-- The trees with their keys. -/
def keyedTrees (o : CompilerOutput) : List (String × SourceUnit) :=
  o.sources.entries.filterMap fun e => e.2.map (e.1, ·)

theorem trees_eq_map (o : CompilerOutput) : o.trees = o.keyedTrees.map fun e => e.2.named e.1 := by
  rw [trees_eq, keyedTrees, List.map_filterMap]
  refine List.filterMap_congr fun e _ => ?_
  rw [Option.map_map]
  rfl

theorem mem_keyedTrees_iff {key : String} {u : SourceUnit} :
    (key, u) ∈ o.keyedTrees ↔ o.HasTree key u := by
  rw [HasTree, keyedTrees, List.mem_filterMap]
  constructor
  · rintro ⟨⟨key', tree⟩, hmem, heq⟩
    obtain ⟨u', rfl, hu⟩ := Option.map_eq_some_iff.1 heq
    obtain ⟨rfl, rfl⟩ := Prod.mk.inj hu
    exact OrderedMap.mem_entries_iff.1 hmem
  · intro h
    exact ⟨(key, some u), OrderedMap.mem_entries_iff.2 h, rfl⟩

theorem keyedTrees_increasing (o : CompilerOutput) :
    o.keyedTrees.Pairwise fun a b => compare a.1 b.1 = .lt := by
  refine List.Pairwise.filterMap _ ?_ o.sources.increasing
  rintro ⟨key, tree⟩ ⟨key', tree'⟩ hlt a ha b hb
  obtain ⟨u, -, rfl⟩ := Option.map_eq_some_iff.1 ha
  obtain ⟨u', -, rfl⟩ := Option.map_eq_some_iff.1 hb
  exact hlt

theorem eq_keyedTrees {trees : List (String × SourceUnit)}
    (hincreasing : trees.Pairwise fun a b => Text.Utf8.encode a.1 < Text.Utf8.encode b.1)
    (hmem : ∀ key u, (key, u) ∈ trees ↔ o.HasTree key u) : trees = o.keyedTrees := by
  have hlt : trees.Pairwise fun a b => compare a.1 b.1 = .lt :=
    hincreasing.imp Text.Utf8.compare_eq_lt_iff.2
  refine eq_of_perm_of_increasing ?_ hlt (keyedTrees_increasing o)
  rw [List.perm_ext_iff_of_nodup (nodup_of_increasing hlt)
    (nodup_of_increasing (keyedTrees_increasing o))]
  rintro ⟨key, u⟩
  rw [hmem, mem_keyedTrees_iff]

theorem gives_units (o : CompilerOutput) : Gives o o.units := by
  rw [CompilerOutput.units]
  by_cases herrors : o.errors = []
  · rw [if_neg (not_not.2 herrors)]
    have hmessages := errors_eq_nil_iff.1 herrors
    by_cases htrees : o.trees = []
    · rw [if_pos htrees]
      rw [trees_eq_map, List.map_eq_nil_iff] at htrees
      refine .treeless hmessages fun key u h => ?_
      exact absurd (mem_keyedTrees_iff.2 h) (htrees ▸ List.not_mem_nil)
    · rw [if_neg htrees, trees_eq_map]
      rw [trees_eq_map, List.map_eq_nil_iff] at htrees
      exact .units hmessages htrees
        ((keyedTrees_increasing o).imp Text.Utf8.compare_eq_lt_iff.1) fun _ _ => mem_keyedTrees_iff
  · rw [if_pos herrors, errors_eq]
    rw [errors_eq_nil_iff] at herrors
    push Not at herrors
    exact .failed herrors

theorem Gives.eq (h : Gives o result) : o.units = result := by
  rw [CompilerOutput.units]
  cases h with
  | failed h =>
    obtain ⟨m, hm, hword⟩ := h
    rw [if_pos fun hnil => errors_eq_nil_iff.1 hnil m hm hword, errors_eq]
  | treeless hmessages h =>
    have hnil : o.keyedTrees = [] :=
      List.eq_nil_iff_forall_not_mem.2 fun e he => h e.1 e.2 (mem_keyedTrees_iff.1 he)
    rw [if_neg (not_not.2 (errors_eq_nil_iff.2 hmessages)),
      if_pos (by rw [trees_eq_map, hnil, List.map_nil])]
  | units hmessages hne hincreasing hmem =>
    obtain rfl := eq_keyedTrees hincreasing hmem
    rw [if_neg (not_not.2 (errors_eq_nil_iff.2 hmessages)), trees_eq_map,
      if_neg (by simpa using hne)]
    rfl

theorem units_eq_iff_gives : o.units = result ↔ Gives o result :=
  ⟨fun h => h ▸ gives_units o, Gives.eq⟩

end CompilerOutput

/-! ## Output in other words -/

/-- The names of the field that holds the tree of a source. -/
def treeNames : List (Option String) := [some "AST", some "ast"]

/-- A source, and the same with its tree under the same or the other name. -/
inductive Respelled : Json → Json → Prop where
  | same (source : Json) : Respelled source source
  | object {fields fields' : List (Option String × Json)}
      (h : List.Forall₂ (fun f f' => f'.2 = f.2 ∧
        (f'.1 = f.1 ∨ f.1 ∈ treeNames ∧ f'.1 ∈ treeNames)) fields fields') :
      Respelled (.object fields) (.object fields')

/-- A message of the compiler that is no error. -/
def IsRemark (j : Json) : Prop :=
  ∃ m, CompilerMessage.read j = some m ∧ ¬IsErrorWord m.severity

/-- Messages, and the same with some remarks more and some less. -/
inductive SameErrors : List Json → List Json → Prop where
  | nil : SameErrors [] []
  | cons (message : Json) {l l' : List Json} (h : SameErrors l l') :
      SameErrors (message :: l) (message :: l')
  | removed {remark : Json} (hremark : IsRemark remark) {l l' : List Json} (h : SameErrors l l') :
      SameErrors (remark :: l) l'
  | added {remark : Json} (hremark : IsRemark remark) {l l' : List Json} (h : SameErrors l l') :
      SameErrors l (remark :: l')

/-- The value of a field of compiler output, and the same in other words. -/
inductive FieldReworded (name : String) : Json → Json → Prop where
  | same (value : Json) : FieldReworded name value value
  | sources (hname : name = "sources") {fields fields' : List (Option String × Json)}
      (h : List.Forall₂ (fun f f' => f'.1 = f.1 ∧ Respelled f.2 f'.2) fields fields') :
      FieldReworded name (.object fields) (.object fields')
  | errors (hname : name = "errors") {items items' : List Json} (h : SameErrors items items') :
      FieldReworded name (.array items) (.array items')

/-- Compiler output, and the same with the trees of some sources under the other name and with
remarks more and less. -/
def Reworded : Json → Json → Prop := RecordsRelated ["sources", "errors"] FieldReworded

section Reworded

variable {w w' j j' : Json} {bytes bytes' : List UInt8}

theorem readSource_respelled (h : Respelled w w') :
    CompilerOutput.readSource w = CompilerOutput.readSource w' := by
  have hrename : w.renameField "ast" "AST" = w'.renameField "ast" "AST" := by
    cases h with
    | same => rfl
    | object h =>
      refine congrArg Json.object ?_
      rw [← List.forall₂_eq_eq_eq, List.forall₂_map_left_iff, List.forall₂_map_right_iff]
      refine h.imp ?_
      rintro ⟨name, v⟩ ⟨name', v'⟩ ⟨rfl, rfl | ⟨hname, hname'⟩⟩
      · rfl
      · simp only [treeNames, List.mem_cons, List.not_mem_nil, or_false] at hname hname'
        rcases hname with rfl | rfl <;> rcases hname' with rfl | rfl <;> rfl
  rw [CompilerOutput.readSource, CompilerOutput.readSource, hrename]

theorem readSources_reworded {fields fields' : List (Option String × Json)}
    (h : List.Forall₂ (fun f f' => f'.1 = f.1 ∧ Respelled f.2 f'.2) fields fields') :
    CompilerOutput.readSources (.object fields) = CompilerOutput.readSources (.object fields') := by
  have hnamed : Option.Rel (List.Forall₂ fun f f' => f'.1 = f.1 ∧ Respelled f.2 f'.2)
      (Json.namedFields? fields) (Json.namedFields? fields') := by
    refine mapM_related h ?_
    rintro ⟨_ | name, v⟩ ⟨name', v'⟩ ⟨rfl, hv⟩
    · exact .none
    · exact .some ⟨rfl, hv⟩
  refine eq_of_rel (rel_bind hnamed fun named named' h => rel_bind (R := Eq) ?_ ?_)
  · have hread := mapM_related (Q := Eq)
      (f := fun f => (CompilerOutput.readSource f.2).map (f.1, ·))
      (g := fun f => (CompilerOutput.readSource f.2).map (f.1, ·)) h
      fun f f' ⟨hname, hv⟩ => rel_of_eq (by rw [hname, readSource_respelled hv])
    simpa only [List.forall₂_eq_eq_eq] using hread
  · rintro sources _ rfl
    exact rel_of_eq rfl

theorem messages_reworded {items items' : List Json} (h : SameErrors items items') :
    Option.Rel (fun ms ms' : List CompilerMessage =>
        ms.filter CompilerMessage.isError = ms'.filter CompilerMessage.isError)
      (items.mapM CompilerMessage.read) (items'.mapM CompilerMessage.read) := by
  -- A remark is read, so it cannot make the list unreadable; the filter drops it then.
  have hremark : ∀ {remark : Json} {l : List Json}, IsRemark remark →
      ∃ m, m.isError = false ∧
        (remark :: l).mapM CompilerMessage.read =
          (l.mapM CompilerMessage.read).bind fun ms => some (m :: ms) := by
    rintro remark l ⟨m, hm, hword⟩
    exact ⟨m, by simpa [← isError_iff] using hword, by rw [List.mapM_cons, hm]; rfl⟩
  induction h with
  | nil => exact .some rfl
  | cons message _ ih =>
    rw [List.mapM_cons, List.mapM_cons]
    refine rel_bind (rel_of_eq rfl) fun m m' hm => rel_bind ih fun ms ms' hms => .some ?_
    rw [hm, List.filter_cons, List.filter_cons, hms]
  | @removed _ h l l' _ ih =>
    obtain ⟨m, hm, hread⟩ := hremark h
    rw [hread, ← Option.bind_fun_some (l'.mapM CompilerMessage.read)]
    refine rel_bind ih fun ms ms' hms => .some ?_
    rw [List.filter_cons_of_neg (by simp [hm]), hms]
  | @added _ h l l' _ ih =>
    obtain ⟨m, hm, hread⟩ := hremark h
    rw [hread, ← Option.bind_fun_some (l.mapM CompilerMessage.read)]
    refine rel_bind ih fun ms ms' hms => .some ?_
    rw [List.filter_cons_of_neg (by simp [hm]), hms]

/-- Output in other words has the same sources and the same errors. -/
theorem ofJson?_reworded (h : Reworded j j') :
    Option.Rel (fun o o' : CompilerOutput => o'.sources = o.sources ∧
        o.messages.filter CompilerMessage.isError = o'.messages.filter CompilerMessage.isError)
      (CompilerOutput.ofJson? j) (CompilerOutput.ofJson? j') := by
  refine rel_bind (Json.record?_related h) fun r r' hr => ?_
  refine rel_bind (hr.withDefault (Q := Eq) rfl ?_) fun sources sources' hsources => ?_
  · intro v v' hv
    cases hv with
    | same => exact rel_of_eq rfl
    | sources _ h => exact rel_of_eq (readSources_reworded h)
    | errors hname => exact absurd hname (by decide)
  refine rel_bind (hr.withDefault (Q := fun ms ms' : List CompilerMessage =>
      ms.filter CompilerMessage.isError = ms'.filter CompilerMessage.isError) rfl ?_)
    fun messages messages' hmessages => .some ⟨hsources.symm, hmessages⟩
  intro v v' hv
  cases hv with
  | same =>
    cases Json.listOf? CompilerMessage.read v with
    | none => exact .none
    | some ms => exact .some rfl
  | sources hname => exact absurd hname (by decide)
  | errors _ h => exact messages_reworded h

theorem units_eq_of_same {o o' : CompilerOutput} (hsources : o'.sources = o.sources)
    (herrors : o.messages.filter CompilerMessage.isError =
      o'.messages.filter CompilerMessage.isError) : o'.units = o.units := by
  rw [CompilerOutput.units, CompilerOutput.units, CompilerOutput.errors, CompilerOutput.errors,
    CompilerOutput.trees, CompilerOutput.trees, hsources, herrors]

theorem readUnits_of_reworded (hj : Json.ofBytes? bytes = some j)
    (hj' : Json.ofBytes? bytes' = some j') (h : Reworded j j') :
    readUnits bytes' = readUnits bytes := by
  have hrel := ofJson?_reworded h
  rw [readUnits, readUnits, CompilerOutput.ofBytes?, CompilerOutput.ofBytes?, hj, hj',
    Option.bind_some, Option.bind_some]
  generalize CompilerOutput.ofJson? j = x at hrel
  generalize CompilerOutput.ofJson? j' = x' at hrel
  cases hrel with
  | none => rfl
  | some hoo' => exact units_eq_of_same hoo'.1 hoo'.2

end Reworded

/-- Where the bytes are no compiler output, this is what is said of them, and only there. Of compiler
output all errors are told, if there are any; or else that there is no tree; or else there is one
source file for each source with a tree, in the order of the bytes of the keys. Nothing of this
changes with the name under which trees stand, nor with messages that are no errors. -/
theorem readUnits_exact :
    (∀ bytes, CompilerOutput.ofBytes? bytes = none ↔ readUnits bytes = .error .malformedOutput) ∧
    (∀ bytes o, CompilerOutput.ofBytes? bytes = some o →
      ∀ result, readUnits bytes = result ↔ o.Gives result) ∧
    (∀ bytes bytes' o o', CompilerOutput.ofBytes? bytes = some o →
      CompilerOutput.ofBytes? bytes' = some o' → o'.sources = o.sources →
      (o'.messages.filter fun m => IsErrorWord m.severity) =
        (o.messages.filter fun m => IsErrorWord m.severity) →
      readUnits bytes' = readUnits bytes) ∧
    ∀ bytes bytes' j j', Json.ofBytes? bytes = some j → Json.ofBytes? bytes' = some j' →
      Reworded j j' → readUnits bytes' = readUnits bytes := by
  refine ⟨fun bytes => ?_, fun bytes o ho result => ?_,
    fun bytes bytes' o o' ho ho' hsources herrors => ?_,
    fun bytes bytes' j j' hj hj' h => readUnits_of_reworded hj hj' h⟩
  · rw [readUnits]
    cases ho : CompilerOutput.ofBytes? bytes with
    | none => exact iff_of_true rfl rfl
    | some o =>
      refine iff_of_false (Option.some_ne_none o) fun h => ?_
      cases CompilerOutput.units_eq_iff_gives.1 h
  · rw [readUnits, ho]
    exact CompilerOutput.units_eq_iff_gives
  · rw [readUnits, readUnits, ho, ho']
    refine units_eq_of_same hsources ?_
    rw [filter_isError, filter_isError, herrors]

/-! ## The output for two sources with trees and one without -/

namespace TwoSources

def sources (treeName : String) : List (Option String × Json) :=
  [(some "b.sol", .object [(some treeName, .object [])]),
    (some "a.sol", .object [(some "AST", .object [(some "absolutePath", .ofString "lib/A.sol")])]),
    (some "c.sol", .object [])]

def output (treeName : String) (messages : List Json) : Json :=
  .object [(some "sources", .object (sources treeName)), (some "errors", .array messages)]

def message (severity : String) : Json :=
  .object [(some "severity", .ofString severity), (some "message", .ofString "unused")]

def bytes (treeName : String) (messages : List Json) : List UInt8 :=
  Text.Utf8.encode (output treeName messages).pretty

/-- What is read of the output. -/
def decoded (messages : List CompilerMessage) : CompilerOutput where
  sources := .ofList
    [("b.sol", some ⟨"", []⟩), ("a.sol", some ⟨"lib/A.sol", []⟩), ("c.sol", none)]
  messages

/-- The source files in the order of their keys, which is not that of their paths. -/
def units : List SourceUnit := [⟨"lib/A.sol", []⟩, ⟨"b.sol", []⟩]

theorem writable_message (severity : String) : Json.Writable (message severity) := by
  simp [message, Json.ofString]

theorem json_bytes (treeName : String) {messages : List Json}
    (h : ∀ m ∈ messages, Json.Writable m) :
    Json.ofBytes? (bytes treeName messages) = some (output treeName messages) :=
  Json.ofBytes?_pretty (by simpa [output, sources, Json.ofString] using h)

theorem json_bytes_message (treeName severity : String) :
    Json.ofBytes? (bytes treeName [message severity]) =
      some (output treeName [message severity]) :=
  json_bytes treeName (by simpa using writable_message severity)

theorem reworded_output : Reworded (output "AST" []) (output "ast" [message "warning"]) := by
  have hremark : IsRemark (message "warning") := ⟨⟨"warning", "unused", none⟩, rfl, by decide⟩
  have hsources : List.Forall₂ (fun f f' => f'.1 = f.1 ∧ Respelled f.2 f'.2) (sources "AST")
      (sources "ast") :=
    .cons ⟨rfl, .object (.cons ⟨rfl, .inr (by decide)⟩ .nil)⟩
      (.cons ⟨rfl, .same _⟩ (.cons ⟨rfl, .same _⟩ .nil))
  refine .object (.cons ⟨rfl, ?_⟩ (.cons ⟨rfl, ?_⟩ .nil))
  · rintro _ ⟨⟩
    exact .sources rfl hsources
  · rintro _ ⟨⟩
    exact .errors rfl (.added hremark .nil)

/-- Neither the name of a tree nor a warning shows in the source files, but an error does. -/
theorem readUnits_twoSources :
    CompilerOutput.ofBytes? (bytes "AST" []) = some (decoded []) ∧
      readUnits (bytes "AST" []) = .ok units ∧
      CompilerOutput.ofBytes? (bytes "AST" [message "warning"]) =
        some (decoded [⟨"warning", "unused", none⟩]) ∧
      readUnits (bytes "AST" [message "warning"]) = .ok units ∧
      Reworded (output "AST" []) (output "ast" [message "warning"]) ∧
      readUnits (bytes "ast" [message "warning"]) = .ok units ∧
      CompilerOutput.ofBytes? (bytes "AST" [message "Error"]) =
        some (decoded [⟨"Error", "unused", none⟩]) ∧
      readUnits (bytes "AST" [message "Error"]) = .error (.compilationFailed "unused") := by
  have hj : Json.ofBytes? (bytes "AST" []) = some (output "AST" []) := json_bytes "AST" (by simp)
  have ho : CompilerOutput.ofBytes? (bytes "AST" []) = some (decoded []) := by
    rw [CompilerOutput.ofBytes?, hj]
    rfl
  have howarning : CompilerOutput.ofBytes? (bytes "AST" [message "warning"]) =
      some (decoded [⟨"warning", "unused", none⟩]) := by
    rw [CompilerOutput.ofBytes?, json_bytes_message]
    rfl
  have hoerror : CompilerOutput.ofBytes? (bytes "AST" [message "Error"]) =
      some (decoded [⟨"Error", "unused", none⟩]) := by
    rw [CompilerOutput.ofBytes?, json_bytes_message]
    rfl
  obtain ⟨-, hgives, hsame, hreworded⟩ := readUnits_exact
  have hunits : readUnits (bytes "AST" []) = .ok units :=
    (hgives _ _ ho _).2 (CompilerOutput.units_eq_iff_gives.1 rfl)
  refine ⟨ho, hunits, howarning, ?_, reworded_output, ?_, hoerror, ?_⟩
  · rw [hsame _ _ _ _ ho howarning rfl (by decide), hunits]
  · rw [hreworded _ _ _ _ hj (json_bytes_message _ _) reworded_output, hunits]
  · refine (hgives _ _ hoerror _).2 (.failed (o := decoded [⟨"Error", "unused", none⟩]) ?_)
    exact ⟨⟨"Error", "unused", none⟩, by decide, by decide⟩

end TwoSources

end Solidity

end TokenConformance
