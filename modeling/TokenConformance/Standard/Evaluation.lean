import TokenConformance.Failure
import TokenConformance.Standard.Rule
import TokenConformance.Text.Search

/-! # Evaluating rules

* `Outcome`, `Evaluation`: what becomes of a rule.
* `searchEmission`: a search through functions and what they call that visits nothing twice.
* `reachesEmission`: whether an event is emitted by a function or by what it calls.
* `Requirement.evaluate`: evaluates a requirement for a contract; it fails only where the facts of
  a function are missing.
-/

namespace TokenConformance

/-- What becomes of a rule. -/
inductive Outcome where
  | satisfied
  | violated
  | notApplicable
deriving DecidableEq, Inhabited

/-- An outcome with what there is to say about it. -/
structure Evaluation where
  outcome : Outcome
  detail : Option String
deriving DecidableEq, Inhabited

namespace Evaluation

/-- There is nothing more to say. -/
def satisfied : Evaluation := ⟨.satisfied, none⟩

/-- The requirement is not met. -/
def violated (detail : String) : Evaluation := ⟨.violated, some detail⟩

/-- The function is missing, and its own rule says so. -/
def skipped (t : FunctionTemplate) : Evaluation :=
  ⟨.notApplicable, some ("skipped: `" ++ t.name ++ "` not found")⟩

end Evaluation

/-! ## Modifiers -/

/-- Whether a modifier is not known to come from a library. -/
def isCustom (c : FlatContract) (modifier : String) : Bool :=
  (c.modifier? modifier).all (·.userDefined)

/-- The custom modifiers of a function, in increasing order. -/
def customModifiers (c : FlatContract) (f : FunctionShape) : List String :=
  f.modifiers.toList.filter (isCustom c)

/-- What there is to say about a function with custom modifiers. -/
def offence? (c : FlatContract) (t : FunctionTemplate) : Option String := do
  let f ← t.find? c.functions
  match customModifiers c f with
  | [] => none
  | custom => return f.name ++ " modified by " ++ ", ".intercalate custom

/-- No custom modifier is applied to any of the functions. -/
def evaluateModifiers (c : FlatContract) (ts : List FunctionTemplate) : Evaluation :=
  match ts.filterMap (offence? c) with
  | [] => .satisfied
  | offences => .violated ("; ".intercalate offences)

/-! ## Events -/

/-- Whether an emission is one of an event. An event of unknown types counts by its name. -/
def Emission.isOf (m : Emission) (e : EventTemplate) : Bool :=
  m.event = e.name && m.types.all fun types => types = e.types

/-- Whether the facts of a body have an emission of an event. -/
def BodyFacts.emits (f : BodyFacts) (e : EventTemplate) : Bool := f.emissions.any (·.isOf e)

/-- How many functions with facts a search has not visited. -/
def unvisited (facts : OrderedMap Selector BodyFacts) (visited : OrderedSet Selector) : Nat :=
  facts.keys.countP fun k => k ∉ visited

theorem unvisited_le {facts : OrderedMap Selector BodyFacts} {s t : OrderedSet Selector}
    (h : ∀ k ∈ s, k ∈ t) : unvisited facts t ≤ unvisited facts s :=
  List.countP_mono_left fun k _ hk => by
    simp only [decide_eq_true_eq] at hk ⊢
    exact fun hs => hk (h k hs)

theorem unvisited_insert_lt {facts : OrderedMap Selector BodyFacts} {s : OrderedSet Selector}
    {k : Selector} {f : BodyFacts} (hk : k ∉ s) (hf : facts.find? k = some f) :
    unvisited facts (s.insert k) < unvisited facts s := by
  have hkeys : k ∈ facts.keys := OrderedMap.mem_keys_of_find? hf
  have hinsert : (facts.keys.filter fun l => l ∉ s.insert k) =
      (facts.keys.filter fun l => l ∉ s).filter fun l => l ≠ k := by
    simp [List.filter_filter, not_or]
  rw [unvisited, unvisited, List.countP_eq_length_filter, List.countP_eq_length_filter, hinsert,
    List.length_filter_lt_length_iff_exists]
  exact ⟨k, List.mem_filter.2 ⟨hkeys, by simpa using hk⟩, by simp⟩

/-- Where a search stands that began with some functions visited: whether it has found an emission
of the event, and what it has visited by now. -/
structure EmissionSearch (before : OrderedSet Selector) where
  found : Bool
  visited : OrderedSet Selector
  visited_of_before : ∀ k ∈ before, k ∈ visited

/-- The search as one that began earlier. -/
def EmissionSearch.since {before later : OrderedSet Selector} (h : ∀ k ∈ before, k ∈ later)
    (s : EmissionSearch later) : EmissionSearch before :=
  ⟨s.found, s.visited, fun k hk => s.visited_of_before k (h k hk)⟩

/-- Searches some functions, one after another, and before the next one whatever the last one
calls. A function is visited once, however it is reached: what one search has visited is not
visited again in the next. The first emission that is found ends the search. -/
def searchEmission (e : EventTemplate) (facts : OrderedMap Selector BodyFacts)
    (visited : OrderedSet Selector) : List Selector → EmissionSearch visited
  | [] => ⟨false, visited, fun _ h => h⟩
  | k :: pending =>
    if _hk : k ∈ visited then searchEmission e facts visited pending
    else
      have hinsert : ∀ l ∈ visited, l ∈ visited.insert k :=
        fun _ h => OrderedSet.mem_insert.2 (.inr h)
      match _hf : facts.find? k with
      | none => (searchEmission e facts (visited.insert k) pending).since hinsert
      | some f =>
        if f.emits e then ⟨true, visited.insert k, hinsert⟩
        else
          let inner := searchEmission e facts (visited.insert k) f.calls.toList
          have hinner : ∀ l ∈ visited, l ∈ inner.visited :=
            fun l h => inner.visited_of_before l (hinsert l h)
          if inner.found then inner.since hinsert
          else (searchEmission e facts inner.visited pending).since hinner
termination_by pending => (unvisited facts visited, pending.length)
decreasing_by
  · exact Prod.Lex.right _ (Nat.lt_succ_self _)
  · exact Prod.Lex.right' _ (unvisited_le hinsert) (Nat.lt_succ_self _)
  · exact Prod.Lex.left _ _ (unvisited_insert_lt _hk _hf)
  · exact Prod.Lex.right' _ (unvisited_le hinner) (Nat.lt_succ_self _)

/-- Whether an event is emitted by a function or by what it calls, at any distance. -/
def reachesEmission (e : EventTemplate) (facts : OrderedMap Selector BodyFacts) (k : Selector) :
    Bool :=
  (searchEmission e facts .empty [k]).found

/-- The function emits the event. -/
def evaluateEmission (c : FlatContract) (t : FunctionTemplate) (e : EventTemplate) :
    Except RuleFailure Evaluation :=
  match t.find? c.functions with
  | none => .ok (.skipped t)
  | some f =>
    if (c.facts.find? f.selector).isNone then .error (.missingFacts f.selector.text)
    else if reachesEmission e c.facts f.selector then .ok .satisfied
    else .ok (.violated ("`" ++ f.selector.text ++ "` does not emit `" ++ e.text ++ "`"))

/-! ## Balances -/

/-- Whether a name speaks of a balance. The case of ASCII letters does not matter. -/
def isBalanceRead (name : String) : Bool :=
  Text.isInside "balance".toList (name.toList.map Char.toLower)

/-- The first balance that a guard reads, if the guard gates a write. -/
def balanceRead? (g : Guard) : Option String :=
  if g.gatesWrite then g.reads.toList.find? isBalanceRead else none

/-- No condition that reads a balance gates a write in the function. -/
def evaluateBalance (c : FlatContract) (t : FunctionTemplate) : Except RuleFailure Evaluation :=
  match t.find? c.functions with
  | none => .ok (.skipped t)
  | some f =>
    match c.facts.find? f.selector with
    | none => .error (.missingFacts f.selector.text)
    | some facts =>
      match facts.guards.findSome? balanceRead? with
      | none => .ok .satisfied
      | some read =>
        .ok (.violated
          ("condition reading `" ++ read ++ "` gates a state write in `" ++ f.selector.text ++ "`"))

/-! ## Requirements -/

/-- There is a function of the shape. -/
def evaluateFunction (c : FlatContract) (t : FunctionTemplate) : Evaluation :=
  match t.find? c.functions with
  | some f => ⟨.satisfied, some ("matched `" ++ f.text ++ "` in " ++ f.declaredIn)⟩
  | none => .violated (t.miss c.functions)

/-- There is an event of the shape. -/
def evaluateEvent (c : FlatContract) (t : EventTemplate) : Evaluation :=
  match t.find? c.events with
  | some e => ⟨.satisfied, some ("matched `" ++ e.text ++ "`")⟩
  | none => .violated (t.miss c.events)

/-- Evaluates a requirement for a contract. -/
def Requirement.evaluate (c : FlatContract) : Requirement → Except RuleFailure Evaluation
  | function t => .ok (evaluateFunction c t)
  | event t => .ok (evaluateEvent c t)
  | noCustomModifiers ts => .ok (evaluateModifiers c ts)
  | emitsEvent t e => evaluateEmission c t e
  | noBalanceGuard t => evaluateBalance c t

end TokenConformance
