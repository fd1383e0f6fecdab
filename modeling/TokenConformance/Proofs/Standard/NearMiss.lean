import TokenConformance.Standard.Template

/-! # Near misses

What is told where no member of a contract has the shape that a template asks for, said apart from
the search for it:

* `NearMiss`: what is told of members by their names, then by their types, then by what is wrong
  with the first one that has both.
* `FunctionTemplate.Flaw`, `EventTemplate.Flaw`: what is wrong with a member of the right name and
  types, the first of several things in a fixed order.
* `nearest_eq_iff`: the search tells what a near miss is, for functions and for events.
* `nearest_eq_missing_iff`, `nearest_eq_otherTypes_iff`: each wording has one meaning.
* `miss_truthful`: all of it for both kinds of templates.
-/

namespace TokenConformance

/-! ## What is told of members -/

section Nearest

variable {α : Type} (named typed : α → Bool) (label : α → String)

/-- What is told of members of which none has the required shape. `named` and `typed` say whether a
member has the required name and types, and `Flaw` what else there is to say of it. -/
inductive NearMiss (Flaw : α → String → Prop) (l : List α) : String → Prop where
  | missing (h : ∀ a ∈ l, named a = false) : NearMiss Flaw l "not found"
  | otherTypes {first : α} (hfirst : l.find? named = some first)
      (h : ∀ a ∈ l, named a = true → typed a = false) :
      NearMiss Flaw l ("found `" ++ label first ++ "` with different parameter types")
  | flawed {a : α} {text : String} (ha : l.find? (fun a => named a && typed a) = some a)
      (h : Flaw a text) : NearMiss Flaw l text

/-- The search for what is told of members. -/
def nearest (flaw : α → String) (l : List α) : String :=
  match l.filter named with
  | [] => "not found"
  | first :: rest =>
    match (first :: rest).find? typed with
    | none => "found `" ++ label first ++ "` with different parameter types"
    | some a => flaw a

variable {named typed label} {Flaw : α → String → Prop} {flaw : α → String} {l : List α}

theorem nearest_of_missing (h : ∀ a ∈ l, named a = false) :
    nearest named typed label flaw l = "not found" := by
  have hnil : l.filter named = [] := List.filter_eq_nil_iff.2 fun a ha => by simp [h a ha]
  rw [nearest, hnil]

theorem exists_filter_of_find? {first : α} (h : l.find? named = some first) :
    ∃ rest, l.filter named = first :: rest := by
  rw [← List.head?_filter] at h
  exact ⟨_, (List.head?_eq_some_iff.1 h).choose_spec⟩

theorem nearest_of_otherTypes {first : α} (hfirst : l.find? named = some first)
    (h : ∀ a ∈ l, named a = true → typed a = false) :
    nearest named typed label flaw l =
      "found `" ++ label first ++ "` with different parameter types" := by
  obtain ⟨rest, hrest⟩ := exists_filter_of_find? hfirst
  have hnone : (first :: rest).find? typed = none := by
    rw [← hrest, List.find?_eq_none]
    intro a ha
    obtain ⟨hmem, hnamed⟩ := List.mem_filter.1 ha
    simp [h a hmem hnamed]
  simp only [nearest, hrest, hnone]

theorem nearest_of_find? {a : α} (ha : l.find? (fun a => named a && typed a) = some a) :
    nearest named typed label flaw l = flaw a := by
  have hfind : (l.filter named).find? typed = some a := by
    rw [List.find?_filter]
    simpa using ha
  cases hfilter : l.filter named with
  | nil => simp [hfilter] at hfind
  | cons first rest =>
    rw [hfilter] at hfind
    simp only [nearest, hfilter, hfind]

/-- One of three things can be told: nothing has the name, or the types, or something has both. -/
theorem nearMiss_nearest
    (hflaw : ∀ a ∈ l, named a = true → typed a = true → Flaw a (flaw a)) :
    NearMiss named typed label Flaw l (nearest named typed label flaw l) := by
  cases hfirst : l.find? named with
  | none =>
    have hmissing : ∀ a ∈ l, named a = false := by simpa using hfirst
    rw [nearest_of_missing hmissing]
    exact .missing hmissing
  | some first =>
    cases hboth : l.find? (fun a => named a && typed a) with
    | none =>
      have htypes : ∀ a ∈ l, named a = true → typed a = false := by simpa using hboth
      rw [nearest_of_otherTypes hfirst htypes]
      exact .otherTypes hfirst htypes
    | some a =>
      have hand : named a = true ∧ typed a = true := by simpa using List.find?_some hboth
      rw [nearest_of_find? hboth]
      exact .flawed hboth (hflaw a (List.mem_of_find?_eq_some hboth) hand.1 hand.2)

/-- The search tells what a near miss is. -/
theorem nearest_eq_iff
    (hflaw : ∀ a ∈ l, named a = true → typed a = true → Flaw a (flaw a))
    (heq : ∀ a text, Flaw a text → flaw a = text) {text : String} :
    nearest named typed label flaw l = text ↔ NearMiss named typed label Flaw l text := by
  constructor
  · rintro rfl
    exact nearMiss_nearest hflaw
  · intro h
    cases h with
    | missing h => exact nearest_of_missing h
    | otherTypes hfirst h => exact nearest_of_otherTypes hfirst h
    | flawed ha h => rw [nearest_of_find? ha, heq _ _ h]

/-! ## What the wordings mean -/

theorem otherTypes_inj {s t : String}
    (h : "found `" ++ s ++ "` with different parameter types" =
      "found `" ++ t ++ "` with different parameter types") : s = t := by
  rw [← String.toList_inj] at h ⊢
  simpa using h

/-- A flaw is told of a member, whose name comes first. -/
def TellsOfMember (Flaw : α → String → Prop) : Prop :=
  ∀ a text, Flaw a text → text.toList.head? = some '`'

theorem NearMiss.of_missing (h : NearMiss named typed label Flaw l "not found")
    (hflaw : TellsOfMember Flaw) : ∀ a ∈ l, named a = false := by
  generalize htext : "not found" = text at h
  cases h with
  | missing h => exact h
  | otherTypes => simpa using congrArg (·.toList.head?) htext
  | flawed _ h =>
    rw [← htext] at h
    exact absurd (hflaw _ _ h) (by decide)

theorem NearMiss.of_otherTypes {key : String}
    (h : NearMiss named typed label Flaw l
      ("found `" ++ key ++ "` with different parameter types")) (hflaw : TellsOfMember Flaw) :
    (∃ first, l.find? named = some first ∧ label first = key) ∧
      ∀ a ∈ l, named a = true → typed a = false := by
  generalize htext : "found `" ++ key ++ "` with different parameter types" = text at h
  cases h with
  | missing => simpa using congrArg (·.toList.head?) htext
  | otherTypes hfirst h => exact ⟨⟨_, hfirst, (otherTypes_inj htext).symm⟩, h⟩
  | flawed _ h =>
    rw [← htext] at h
    simpa using hflaw _ _ h

theorem nearest_eq_missing_iff
    (hflaw : ∀ a ∈ l, named a = true → typed a = true → Flaw a (flaw a))
    (htells : TellsOfMember Flaw) :
    nearest named typed label flaw l = "not found" ↔ ∀ a ∈ l, named a = false :=
  ⟨fun h => (h ▸ nearMiss_nearest hflaw).of_missing htells, nearest_of_missing⟩

theorem nearest_eq_otherTypes_iff
    (hflaw : ∀ a ∈ l, named a = true → typed a = true → Flaw a (flaw a))
    (htells : TellsOfMember Flaw) {key : String} :
    nearest named typed label flaw l = "found `" ++ key ++ "` with different parameter types" ↔
      (∃ first, l.find? named = some first ∧ label first = key) ∧
        ∀ a ∈ l, named a = true → typed a = false := by
  constructor
  · intro h
    exact (h ▸ nearMiss_nearest hflaw).of_otherTypes htells
  · rintro ⟨⟨first, hfirst, rfl⟩, h⟩
    exact nearest_of_otherTypes hfirst h

end Nearest

/-! ## Functions -/

namespace FunctionTemplate

variable {t : FunctionTemplate} {f : FunctionShape} {fs : List FunctionShape} {text : String}

/-- What keeps a function of the right name and types from having the shape of a template: that
other contracts cannot call it, or else its results, or else its mutability. -/
inductive Flaw (t : FunctionTemplate) (f : FunctionShape) : String → Prop where
  | closed (ht : t.openToCalls = true) (hf : f.visibility.isOpen = false) :
      Flaw t f ("`" ++ f.selector.text ++ "` is " ++ f.visibility.keyword ++
        ", not externally callable")
  | results {rs : List String} (hopen : t.openToCalls = true → f.visibility.isOpen = true)
      (ht : t.returns = some rs) (hf : f.returns ≠ rs) :
      Flaw t f ("`" ++ f.selector.text ++ "` returns (" ++ ",".intercalate f.returns ++
        ") instead of (" ++ ",".intercalate rs ++ ")")
  | mutability {m : Mutability} (hopen : t.openToCalls = true → f.visibility.isOpen = true)
      (hresults : ∀ rs, t.returns = some rs → f.returns = rs) (ht : t.mutability = some m)
      (hf : f.mutability ≠ m) :
      Flaw t f ("`" ++ f.selector.text ++ "` is " ++ f.mutability.keyword ++ ", expected " ++
        m.keyword)

/-- What is told of functions of which none has the shape of a template. -/
abbrev NearMiss (t : FunctionTemplate) (fs : List FunctionShape) (text : String) : Prop :=
  TokenConformance.NearMiss (fun f => f.name = t.name) (fun f => f.types = t.types)
    (·.selector.text) t.Flaw fs text

theorem visibilityMatches_eq_true_iff :
    t.visibilityMatches f = true ↔ (t.openToCalls = true → f.visibility.isOpen = true) := by
  cases ht : t.openToCalls <;> simp [visibilityMatches, ht]

theorem returnsMatch_eq_true_iff :
    t.returnsMatch f = true ↔ ∀ rs, t.returns = some rs → f.returns = rs := by
  cases ht : t.returns <;> simp [returnsMatch, ht]

/-- A function with the right name and types that has not the shape has one of the flaws. -/
theorem flaw_mismatch (hname : f.name = t.name) (htypes : f.types = t.types)
    (h : t.admits f = false) : t.Flaw f (t.mismatch f) := by
  unfold mismatch
  by_cases hopen : t.visibilityMatches f = true
  · rw [if_neg (by simp [hopen])]
    by_cases hreturns : t.returnsMatch f = true
    · rw [if_neg (by simp [hreturns])]
      have hmutability : t.mutabilityMatches f = false := by
        simpa [admits, hname, htypes, hopen, hreturns] using h
      cases hm : t.mutability with
      | none => simp [mutabilityMatches, hm] at hmutability
      | some m =>
        have hne : f.mutability ≠ m := by simpa [mutabilityMatches, hm] using hmutability
        dsimp only
        rw [if_pos hne]
        exact .mutability (visibilityMatches_eq_true_iff.1 hopen)
          (returnsMatch_eq_true_iff.1 hreturns) hm hne
    · rw [if_pos (by simp [hreturns])]
      cases hrs : t.returns with
      | none => simp [returnsMatch, hrs] at hreturns
      | some rs =>
        have hne : f.returns ≠ rs := by simpa [returnsMatch, hrs] using hreturns
        exact .results (visibilityMatches_eq_true_iff.1 hopen) hrs hne
  · rw [if_pos (by simp [hopen])]
    obtain ⟨ht, hf⟩ : t.openToCalls = true ∧ f.visibility.isOpen = false := by
      simpa [visibilityMatches_eq_true_iff] using hopen
    exact .closed ht hf

theorem Flaw.mismatch_eq (h : t.Flaw f text) : t.mismatch f = text := by
  cases h with
  | closed ht hf => simp [mismatch, visibilityMatches, ht, hf]
  | results hopen ht hf =>
    rw [mismatch, if_neg (by simp [visibilityMatches_eq_true_iff.2 hopen]),
      if_pos (by simp [returnsMatch, ht, hf]), ht, Option.getD_some]
  | mutability hopen hresults ht hf =>
    rw [mismatch, if_neg (by simp [visibilityMatches_eq_true_iff.2 hopen]),
      if_neg (by simp [returnsMatch_eq_true_iff.2 hresults]), ht]
    exact if_pos hf

theorem tellsOfMember_flaw (t : FunctionTemplate) : TellsOfMember t.Flaw := by
  intro f text h
  cases h <;> simp

theorem flaw_of_find?_eq_none (h : t.find? fs = none) : ∀ f ∈ fs, decide (f.name = t.name) = true →
    decide (f.types = t.types) = true → t.Flaw f (t.mismatch f) := by
  intro f hf hname htypes
  have hadmits : t.admits f = false := by simpa using List.find?_eq_none.1 h f hf
  exact flaw_mismatch (of_decide_eq_true hname) (of_decide_eq_true htypes) hadmits

theorem miss_eq_nearest (t : FunctionTemplate) (fs : List FunctionShape) :
    t.miss fs = nearest (fun f => f.name = t.name) (fun f => f.types = t.types) (·.selector.text)
      t.mismatch fs := by
  unfold miss nearest
  cases fs.filter fun f => f.name = t.name with
  | nil => rfl
  | cons first rest => dsimp only; cases (first :: rest).find? fun f => f.types = t.types <;> rfl

end FunctionTemplate

/-! ## Events -/

namespace EventTemplate

variable {t : EventTemplate} {e : EventShape} {es : List EventShape}

/-- What keeps an event of the right name and types from having the shape of a template: the
parameters that are indexed. -/
inductive Flaw (t : EventTemplate) (e : EventShape) : String → Prop where
  | indexed {flags : List Bool} (ht : t.indexed = some flags)
      (he : e.parameters.map (·.indexed) ≠ flags) :
      Flaw t e ("`" ++ e.text ++ "` differs in indexed parameters")

/-- What is told of events of which none has the shape of a template. -/
abbrev NearMiss (t : EventTemplate) (es : List EventShape) (text : String) : Prop :=
  TokenConformance.NearMiss (fun e => e.name = t.name) (fun e => e.types = t.types)
    EventShape.text t.Flaw es text

theorem tellsOfMember_flaw (t : EventTemplate) : TellsOfMember t.Flaw := by
  intro e text h
  cases h
  simp

theorem flaw_of_find?_eq_none (h : t.find? es = none) : ∀ e ∈ es, decide (e.name = t.name) = true →
    decide (e.types = t.types) = true →
      t.Flaw e ("`" ++ e.text ++ "` differs in indexed parameters") := by
  intro e he hname htypes
  have hadmits : t.admits e = false := by simpa using List.find?_eq_none.1 h e he
  have hindexed : t.indexedMatch e = false := by
    simpa [admits, of_decide_eq_true hname, of_decide_eq_true htypes] using hadmits
  cases ht : t.indexed with
  | none => simp [indexedMatch, ht] at hindexed
  | some flags => exact .indexed ht (by simpa [indexedMatch, ht] using hindexed)

theorem miss_eq_nearest (t : EventTemplate) (es : List EventShape) :
    t.miss es = nearest (fun e => e.name = t.name) (fun e => e.types = t.types) EventShape.text
      (fun e => "`" ++ e.text ++ "` differs in indexed parameters") es := by
  unfold miss nearest
  cases es.filter fun e => e.name = t.name with
  | nil => rfl
  | cons first rest => dsimp only; cases (first :: rest).find? fun e => e.types = t.types <;> rfl

end EventTemplate

/-! ## What reports say of missing members -/

/-- Where no member has the shape that a template asks for, a near miss is told. It is that nothing
was found exactly if no member has the name, and that a member has different types exactly if it is
the first one with the name and none with the name has the types. In every other case it is what is
really wrong with the first member that has both. -/
theorem miss_truthful :
    (∀ (t : FunctionTemplate) (fs : List FunctionShape), t.find? fs = none →
      (∀ text, t.miss fs = text ↔ t.NearMiss fs text) ∧
      (t.miss fs = "not found" ↔ ∀ f ∈ fs, f.name ≠ t.name) ∧
      ∀ key, t.miss fs = "found `" ++ key ++ "` with different parameter types" ↔
        (∃ first, fs.find? (fun f => f.name = t.name) = some first ∧
          first.selector.text = key) ∧ ∀ f ∈ fs, f.name = t.name → f.types ≠ t.types) ∧
    ∀ (t : EventTemplate) (es : List EventShape), t.find? es = none →
      (∀ text, t.miss es = text ↔ t.NearMiss es text) ∧
      (t.miss es = "not found" ↔ ∀ e ∈ es, e.name ≠ t.name) ∧
      ∀ key, t.miss es = "found `" ++ key ++ "` with different parameter types" ↔
        (∃ first, es.find? (fun e => e.name = t.name) = some first ∧ first.text = key) ∧
          ∀ e ∈ es, e.name = t.name → e.types ≠ t.types := by
  refine ⟨fun t fs h => ⟨fun text => ?_, ?_, fun key => ?_⟩,
    fun t es h => ⟨fun text => ?_, ?_, fun key => ?_⟩⟩
  · rw [FunctionTemplate.miss_eq_nearest]
    exact nearest_eq_iff (FunctionTemplate.flaw_of_find?_eq_none h) fun _ _ => (·.mismatch_eq)
  · rw [FunctionTemplate.miss_eq_nearest, nearest_eq_missing_iff
      (FunctionTemplate.flaw_of_find?_eq_none h) t.tellsOfMember_flaw]
    simp
  · rw [FunctionTemplate.miss_eq_nearest, nearest_eq_otherTypes_iff
      (FunctionTemplate.flaw_of_find?_eq_none h) t.tellsOfMember_flaw]
    simp
  · rw [EventTemplate.miss_eq_nearest]
    exact nearest_eq_iff (EventTemplate.flaw_of_find?_eq_none h) fun _ _ hflaw => by cases hflaw; rfl
  · rw [EventTemplate.miss_eq_nearest, nearest_eq_missing_iff
      (EventTemplate.flaw_of_find?_eq_none h) t.tellsOfMember_flaw]
    simp
  · rw [EventTemplate.miss_eq_nearest, nearest_eq_otherTypes_iff
      (EventTemplate.flaw_of_find?_eq_none h) t.tellsOfMember_flaw]
    simp

namespace ClosedToken

/-- Nobody can call it from outside, and it gives no result either. -/
def transfer : FunctionShape where
  name := "transfer"
  parameters := [⟨"to", "address"⟩, ⟨"value", "uint256"⟩]
  returns := []
  visibility := .internalAccess
  mutability := .nonpayable
  modifiers := .empty
  declaredIn := "Token"

def functions : List FunctionShape :=
  [{ transfer with name := "approve" }, { transfer with parameters := [⟨"to", "address"⟩] },
    transfer, { transfer with visibility := .publicAccess }]

def requiredTransfer : FunctionTemplate := .callable "transfer" ["address", "uint256"] ["bool"]

def events : List EventShape := [⟨"Transfer", [⟨"address", true⟩, ⟨"uint256", false⟩]⟩]

def requiredEvent : EventTemplate := ⟨"Transfer", ["address", "uint256"], some [true, true]⟩

/-- Of two functions with the right name and types the first one is told of, and of its flaws the
first one. -/
theorem miss_transfer :
    requiredTransfer.find? functions = none ∧
      requiredTransfer.miss functions =
        "`transfer(address,uint256)` is internal, not externally callable" ∧
      requiredEvent.find? events = none ∧
      requiredEvent.miss events =
        "`Transfer(address indexed,uint256)` differs in indexed parameters" := by
  have hfunction : requiredTransfer.find? functions = none := by decide
  have hevent : requiredEvent.find? events = none := by decide
  obtain ⟨hfunctions, hevents⟩ := miss_truthful
  refine ⟨hfunction, ((hfunctions _ _ hfunction).1 _).2 ?_, hevent,
    ((hevents _ _ hevent).1 _).2 ?_⟩
  · exact .flawed (a := transfer) rfl (.closed rfl rfl)
  · exact .flawed rfl (.indexed rfl (by decide))

end ClosedToken

end TokenConformance
