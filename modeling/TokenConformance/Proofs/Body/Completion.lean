import Mathlib.Logic.Relation
import TokenConformance.Proofs.Body.Occurrence
import TokenConformance.Proofs.Body.TailBlock

/-! # Statements that control can go past

`terminates` asks for the last statement of a block alone. Here it is compared with what control can
do, where every statement of a block counts:

* `Completes`: control can go past a statement.
* `Completes.terminates_eq`: such a statement does not terminate.
* `Through`, `NoDeadCode`: what stands in blocks and branches; nothing there follows a statement
  that control cannot go past.
* `completes_of_not_terminates`: without dead code, control can go past what does not terminate.
* `terminates_completion`: both directions.
-/

namespace TokenConformance.Body

open Solidity

/-- Control can go past a statement. Of a block it has to go past every statement, of an `if` past one
branch, and past an `if` without `else` it always can. Loops are not looked into. -/
inductive Completes : Statement → Prop where
  | block {statements : List Statement} {s : Statement} (hs : IsBlock statements s)
      (h : ∀ t ∈ statements, Completes t) : Completes s
  | expression {e : Expression}
      (h : ∀ declaration arguments, e ≠ .call (.identifier "revert" declaration) arguments) :
      Completes (.expression e)
  | withoutElse (condition whenTrue) : Completes (.branch condition whenTrue none)
  | whenTrue (condition) {whenTrue} (whenFalse) (h : Completes whenTrue) :
      Completes (.branch condition whenTrue whenFalse)
  | whenFalse (condition whenTrue) {whenFalse} (h : Completes whenFalse) :
      Completes (.branch condition whenTrue (some whenFalse))
  | declaration (initial) : Completes (.declaration initial)
  | emit (event) : Completes (.emit event)
  | forLoop (initial condition step body) : Completes (.forLoop initial condition step body)
  | whileLoop (condition body) : Completes (.whileLoop condition body)
  | doWhileLoop (condition body) : Completes (.doWhileLoop condition body)
  | other : Completes .other

/-! ## What terminates does not complete -/

theorem isRevertCall_iff {e : Expression} :
    isRevertCall e = true ↔
      ∃ declaration arguments, e = .call (.identifier "revert" declaration) arguments := by
  constructor
  · intro h
    unfold isRevertCall at h
    split at h
    · next name declaration arguments =>
      obtain rfl : name = "revert" := by simpa using h
      exact ⟨declaration, arguments, rfl⟩
    · exact absurd h (by decide)
  · rintro ⟨declaration, arguments, rfl⟩
    rfl

theorem lastTerminates_concat (before : List Statement) (s : Statement) :
    lastTerminates (before ++ [s]) = terminates s := by
  rw [lastTerminates_append, lastTerminates]

theorem lastTerminates_eq_false {statements : List Statement}
    (h : ∀ s ∈ statements, terminates s = false) : lastTerminates statements = false := by
  rcases List.eq_nil_or_concat statements with rfl | ⟨before, s, rfl⟩
  · rfl
  · rw [List.concat_eq_append] at h ⊢
    rw [lastTerminates_concat]
    exact h s (by simp)

theorem Completes.terminates_eq {s : Statement} (h : Completes s) : terminates s = false := by
  induction h with
  | block hs _ ih =>
    rw [hs.terminates_eq]
    exact lastTerminates_eq_false ih
  | expression h =>
    rw [terminates, ← Bool.not_eq_true, isRevertCall_iff]
    rintro ⟨declaration, arguments, he⟩
    exact h declaration arguments he
  | withoutElse condition whenTrue => rw [terminates, someTerminates, Bool.and_false]
  | whenTrue condition whenFalse _ ih => rw [terminates, ih, Bool.false_and]
  | whenFalse condition whenTrue _ ih => rw [terminates, someTerminates, ih, Bool.and_false]
  | declaration | emit | forLoop | whileLoop | doWhileLoop | other => simp [terminates]

/-! ## Dead code -/

/-- A statement stands directly in a block or in a branch of an `if`. -/
inductive Through : Statement → Statement → Prop where
  | block {statements : List Statement} {s t : Statement} (hs : IsBlock statements s)
      (ht : t ∈ statements) : Through s t
  | whenTrue (condition whenTrue whenFalse) :
      Through (.branch condition whenTrue whenFalse) whenTrue
  | whenFalse (condition whenTrue whenFalse) :
      Through (.branch condition whenTrue (some whenFalse)) whenFalse

/-- In every block that is reached through blocks and branches, control can go past each statement
before the last one. -/
def NoDeadCode (s : Statement) : Prop :=
  ∀ b statements, Relation.ReflTransGen Through s b → IsBlock statements b →
    ∀ t ∈ statements.dropLast, Completes t

theorem Through.sizeOf_lt {s t : Statement} (h : Through s t) : sizeOf t < sizeOf s := by
  refine Statement.sizeOf_lt_of_mem_parts ?_
  cases h with
  | block hs ht => cases hs <;> exact ht
  | whenTrue => simp [Statement.parts]
  | whenFalse => simp [Statement.parts]

theorem noDeadCode_iff {s : Statement} :
    NoDeadCode s ↔ (∀ statements, IsBlock statements s → ∀ t ∈ statements.dropLast, Completes t) ∧
      ∀ t, Through s t → NoDeadCode t := by
  constructor
  · intro h
    refine ⟨fun statements hs => h s statements .refl hs, fun t ht b statements htb hb => ?_⟩
    exact h b statements (.head ht htb) hb
  · rintro ⟨hself, hinside⟩ b statements hsb hb
    rcases hsb.cases_head with rfl | ⟨t, ht, htb⟩
    · exact hself statements hb
    · exact hinside t ht b statements htb hb

theorem NoDeadCode.of_block {statements : List Statement} {s : Statement}
    (hs : IsBlock statements s) (hbefore : ∀ t ∈ statements.dropLast, Completes t)
    (hinside : ∀ t ∈ statements, NoDeadCode t) : NoDeadCode s := by
  refine noDeadCode_iff.2 ⟨fun statements' hs' => ?_, fun t ht => ?_⟩
  · cases hs <;> cases hs' <;> exact hbefore
  · cases ht with
    | block hs' ht => cases hs <;> cases hs' <;> exact hinside t ht
    | whenTrue | whenFalse => cases hs

theorem NoDeadCode.of_branch {condition : Expression} {whenTrue : Statement}
    {whenFalse : Option Statement} (htrue : NoDeadCode whenTrue)
    (hfalse : ∀ t, whenFalse = some t → NoDeadCode t) :
    NoDeadCode (.branch condition whenTrue whenFalse) := by
  refine noDeadCode_iff.2 ⟨nofun, fun t ht => ?_⟩
  cases ht with
  | block hs _ => cases hs
  | whenTrue => exact htrue
  | whenFalse => exact hfalse t rfl

theorem NoDeadCode.of_leaf {s : Statement} (hs : ∀ statements, ¬IsBlock statements s)
    (h : ∀ t, ¬Through s t) : NoDeadCode s :=
  noDeadCode_iff.2 ⟨fun statements hblock => absurd hblock (hs statements),
    fun t ht => absurd ht (h t)⟩

/-- Before the last statement of a block nothing holds control back, and the last one decides. -/
theorem completes_of_not_lastTerminates {statements : List Statement}
    (hbefore : ∀ t ∈ statements.dropLast, Completes t)
    (hlast : ∀ t ∈ statements, terminates t = false → Completes t)
    (h : lastTerminates statements = false) : ∀ t ∈ statements, Completes t := by
  rcases List.eq_nil_or_concat statements with rfl | ⟨before, s, rfl⟩
  · exact nofun
  · rw [List.concat_eq_append] at hbefore hlast h ⊢
    rw [List.dropLast_concat] at hbefore
    rw [lastTerminates_concat] at h
    intro t ht
    rcases List.mem_append.1 ht with ht | ht
    · exact hbefore t ht
    · obtain rfl := List.mem_singleton.1 ht
      exact hlast t (by simp) h

theorem completes_of_not_terminates {s : Statement} (hdead : NoDeadCode s)
    (h : terminates s = false) : Completes s := by
  -- Lists of statements have no induction of their own here, so it goes by the size of a statement.
  induction hn : sizeOf s using Nat.strongRecOn generalizing s with
  | _ n ih =>
    obtain ⟨hself, hinside⟩ := noDeadCode_iff.1 hdead
    have hparts : ∀ t, Through s t → terminates t = false → Completes t := fun t ht hends =>
      ih (sizeOf t) (hn ▸ ht.sizeOf_lt) (hinside t ht) hends rfl
    have hblock : ∀ statements, IsBlock statements s → Completes s := fun statements hs =>
      .block hs (completes_of_not_lastTerminates (hself statements hs)
        (fun t ht => hparts t (.block hs ht)) (hs.terminates_eq ▸ h))
    cases s with
    | block statements => exact hblock statements .block
    | unchecked statements => exact hblock statements .unchecked
    | expression e =>
      rw [terminates] at h
      refine .expression fun declaration arguments he => ?_
      rw [isRevertCall_iff.2 ⟨declaration, arguments, he⟩] at h
      exact absurd h (by decide)
    | branch condition whenTrue whenFalse =>
      cases whenFalse with
      | none => exact .withoutElse condition whenTrue
      | some whenFalse =>
        rw [terminates, someTerminates, Bool.and_eq_false_iff] at h
        rcases h with h | h
        · exact .whenTrue condition _ (hparts whenTrue (.whenTrue _ _ _) h)
        · exact .whenFalse condition whenTrue (hparts whenFalse (.whenFalse _ _ _) h)
    | declaration initial => exact .declaration initial
    | ret value => exact absurd h (by rw [terminates]; decide)
    | emit event => exact .emit event
    | revert error => exact absurd h (by rw [terminates]; decide)
    | forLoop initial condition step body => exact .forLoop initial condition step body
    | whileLoop condition body => exact .whileLoop condition body
    | doWhileLoop condition body => exact .doWhileLoop condition body
    | other => exact .other

/-- Control cannot go past what terminates. Where no dead code stands in blocks and branches, what
control cannot go past terminates. -/
theorem terminates_completion (s : Statement) :
    (terminates s = true → ¬Completes s) ∧
      (NoDeadCode s → ¬Completes s → terminates s = true) := by
  constructor
  · intro h hcompletes
    rw [hcompletes.terminates_eq] at h
    exact absurd h (by decide)
  · intro hdead hcompletes
    by_contra h
    exact hcompletes (completes_of_not_terminates hdead (by simpa using h))

-- Control cannot go past the `return`, but what stands after it hides this.
example : terminates (.block [.ret none, .other]) = false := rfl

/-! ## A refusal -/

/-- Gives up in the one branch with an error and in the other one, if it gets there, with a call. -/
def refusal : Statement :=
  .branch (.identifier "paused" none)
    (.block [.emit (.call (.identifier "Refused" none) []),
      .revert (.call (.identifier "Paused" none) [])])
    (some (.unchecked [.whileLoop .other (.ret none), .branch .other (.ret none) none,
      .expression (.call (.identifier "revert" none) [])]))

theorem noDeadCode_refusal : NoDeadCode refusal := by
  refine .of_branch (.of_block .block ?_ ?_) fun t ht => ?_
  · intro t ht
    obtain rfl := List.mem_singleton.1 ht
    exact .emit _
  · intro t ht
    rcases List.mem_pair.1 ht with rfl | rfl <;> exact .of_leaf nofun nofun
  · obtain rfl := Option.some.inj ht
    refine .of_block .unchecked (fun t ht => ?_) fun t ht => ?_
    · rcases List.mem_pair.1 ht with rfl | rfl
      · exact .whileLoop _ _
      · exact .withoutElse _ _
    · rcases List.mem_cons.1 ht with rfl | ht
      · exact .of_leaf nofun nofun
      · rcases List.mem_pair.1 ht with rfl | rfl
        · exact .of_branch (.of_leaf nofun nofun) nofun
        · exact .of_leaf nofun nofun

/-- Both directions meet at a statement that control cannot go past. -/
theorem refusal_terminates :
    NoDeadCode refusal ∧ ¬Completes refusal ∧ terminates refusal = true := by
  obtain ⟨hsound, hexact⟩ := terminates_completion refusal
  have hcompletes : ¬Completes refusal := hsound rfl
  exact ⟨noDeadCode_refusal, hcompletes, hexact noDeadCode_refusal hcompletes⟩

end TokenConformance.Body
