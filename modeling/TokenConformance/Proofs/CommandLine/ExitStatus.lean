import TokenConformance.CommandLine.Run
import TokenConformance.Proofs.Hierarchy.ForwardCompatibility
import TokenConformance.Proofs.Inspection.OrderOfFailure
import TokenConformance.Proofs.Standard.SkippedRules

/-! # The exit status

All that a script learns from a check is its exit status:

* `exitCode_verdict_eq_zero_iff_advisory`, `exitCode_verdict_eq_one_iff`: the status for a verdict.
* `inspection`: what the options of a command line let the inspection come to.
* `Undisturbed`: what reading and compiling leave as it is.
* `Completion`: how a check ends: without a report, or with one that is printed, written to a file
  or refused by the file.
* `run_exitStatus`: which exit status follows, where the report goes, and that neither its form nor
  its place has any influence on the status.
-/

namespace TokenConformance.CommandLine

/-! ## The status for a verdict -/

theorem exitCode_level (l : Level) : exitCode l.exitCode = if l = .conformant then 0 else 1 := by
  cases l <;> decide

theorem exitCode_verdict_eq_one_iff {cs : List CategoryResult} :
    exitCode (verdict cs).exitCode = 1 ↔
      ∃ k ∈ cs, k.gating = true ∧ ∃ x ∈ k.results, x.outcome = .violated := by
  have hexit : (verdict cs).exitCode = (verdict cs).level.exitCode := rfl
  rw [hexit, exitCode_level]
  by_cases h : (verdict cs).level = .conformant
  · rw [if_pos h]
    have hpass := conformant_verdict_iff.1 h
    refine ⟨fun habsurd => absurd habsurd (by decide), ?_⟩
    rintro ⟨k, hk, hgating, x, hx, hviolated⟩
    exact absurd hviolated (hpass k hk hgating x hx)
  · rw [if_neg h]
    rw [conformant_verdict_iff] at h
    push Not at h
    exact ⟨fun _ => h, fun _ => rfl⟩

theorem exitCode_verdict_eq_zero_iff_advisory {cs : List CategoryResult} :
    exitCode (verdict cs).exitCode = 0 ↔
      ∀ k ∈ cs, ∀ x ∈ k.results, x.outcome = .violated → k.gating = false := by
  have hexit : (verdict cs).exitCode = (verdict cs).level.exitCode := rfl
  have hzero : exitCode (verdict cs).exitCode = 0 ↔ (verdict cs).level = .conformant := by
    rw [hexit, exitCode_level]
    split <;> simp_all
  rw [hzero, conformant_verdict_iff]
  refine forall₂_congr fun k _ => ⟨fun h x hx hviolated => ?_, fun h hgating x hx hviolated => ?_⟩
  · by_contra hgating
    exact h (by simpa using hgating) x hx hviolated
  · rw [h x hx hviolated] at hgating
    exact absurd hgating (by decide)

theorem exitCode_verdict_ne_two (cs : List CategoryResult) :
    exitCode (verdict cs).exitCode ≠ 2 := by
  have hexit : (verdict cs).exitCode = (verdict cs).level.exitCode := rfl
  rw [hexit, exitCode_level]
  split <;> decide

/-! ## Inspections -/

section

variable {σ β : Type} {w : World (StateM σ)} {environment : Option String} {o : Options}
  {look : σ → β} {s s₁ : σ} {report : Report}

/-- What the options of a command line let the inspection come to, and the state after it. The form
of the report and its place are not asked for. -/
def inspection (w : World (StateM σ)) (environment : Option String) (o : Options) (s : σ) :
    Except InspectionFailure Report × σ :=
  (inspect w (settings environment o) ⟨o.source, o.contract, o.standard⟩ (tool o.commit)).run s

/-- What is looked at stays as it is when a file is read and when the compiler runs. -/
structure Undisturbed (w : World (StateM σ)) (compiler : String) (look : σ → β) : Prop where
  read : ∀ path s, look ((w.read path).run s).2 = look s
  start : ∀ arguments s, look ((w.start compiler arguments).run s).2 = look s

theorem verdict_of_inspection (h : inspection w environment o s = (.ok report, s₁)) :
    report.verdict = verdict report.categories := by
  obtain ⟨x, s', hending⟩ := exists_ending w.read (compile w (settings environment o))
    ⟨o.source, o.contract, o.standard⟩ (settings environment o).libraryPrefixes (tool o.commit) s
  obtain ⟨rfl, -⟩ := Prod.mk.inj (h.symm.trans hending.run_eq)
  cases hending with
  | reported _ _ _ _ _ hreport => exact hreport.verdict

theorem look_compile {c : Settings} (h : Undisturbed w c.compiler look) (source : SourceFile)
    (s : σ) : look ((compile w c source).run s).2 = look s := by
  unfold compile
  split
  · rfl
  · rw [StateT.run_bind]
    have hkept := h.start (c.compilerArguments ++ ["--combined-json", "ast", source.path]) s
    refine Eq.trans ?_ hkept
    generalize w.start c.compiler _ = started
    rcases started.run s with ⟨cause | result, s'⟩ <;> rfl

/-- What neither reading nor compiling changes is the same after the inspection. -/
theorem look_inspection (h : Undisturbed w (settings environment o).compiler look) (s : σ) :
    look (inspection w environment o s).2 = look s := by
  obtain ⟨x, s', hending⟩ := exists_ending w.read (compile w (settings environment o))
    ⟨o.source, o.contract, o.standard⟩ (settings environment o).libraryPrefixes (tool o.commit) s
  have hrun : inspection w environment o s = (x, s') := hending.run_eq
  have hafterRead : ∀ {x : Except SystemError (List UInt8)} {s₁ : σ},
      (w.read o.source).run s = (x, s₁) → look s₁ = look s := by
    intro x s₁ hread
    rw [← h.read o.source s, hread]
  have hafterCompile : ∀ {source : SourceFile} {x : Except SourceFailure (List Solidity.SourceUnit)}
      {s₁ s₂ : σ}, (compile w (settings environment o) source).run s₁ = (x, s₂) →
        look s₂ = look s₁ := by
    intro source x s₁ s₂ hcompile
    rw [← look_compile h source s₁, hcompile]
  rw [hrun]
  cases hending with
  | unknownStandard | emptyName => rfl
  | unreadable _ _ hread => exact hafterRead hread
  | notCompiled _ _ hread hcompile => exact (hafterCompile hcompile).trans (hafterRead hread)
  | notFlattened _ _ hread hcompile => exact (hafterCompile hcompile).trans (hafterRead hread)
  | reported _ _ hread hcompile => exact (hafterCompile hcompile).trans (hafterRead hread)

/-! ## Checks -/

/-- The file that is named for a report cannot be written. -/
def Unwritten (w : World (StateM σ)) (o : Options) (report : Report) (s : σ) : Prop :=
  ∃ path cause s', o.out = some path ∧
    (w.write path (rendered o.format report)).run s = (.error cause, s')

/-- How a check ends that begins in the state `s` of the world, and the state after it. -/
inductive Completion (w : World (StateM σ)) (environment : Option String) (o : Options) (s : σ) :
    Exit → σ → Prop where
  | failed {failure : InspectionFailure} {s₁ : σ}
      (hinspection : inspection w environment o s = (.error failure, s₁)) :
      Completion w environment o s (failed failure.chain) s₁
  | printed {report : Report} {s₁ : σ}
      (hinspection : inspection w environment o s = (.ok report, s₁)) (hout : o.out = none) :
      Completion w environment o s
        ⟨exitCode report.verdict.exitCode, rendered o.format report, ""⟩ s₁
  | unwritten {report : Report} {s₁ s₂ : σ} {path : String} {cause : SystemError}
      (hinspection : inspection w environment o s = (.ok report, s₁)) (hout : o.out = some path)
      (hwrite : (w.write path (rendered o.format report)).run s₁ = (.error cause, s₂)) :
      Completion w environment o s
        (CommandLine.failed ["failed to write " ++ path, cause.message]) s₂
  | written {report : Report} {s₁ s₂ : σ} {path : String}
      (hinspection : inspection w environment o s = (.ok report, s₁)) (hout : o.out = some path)
      (hwrite : (w.write path (rendered o.format report)).run s₁ = (.ok (), s₂)) :
      Completion w environment o s ⟨exitCode report.verdict.exitCode, "", ""⟩ s₂

theorem exists_completion (w : World (StateM σ)) (environment : Option String) (o : Options)
    (s : σ) : ∃ exit s', (check w environment o).run s = (exit, s') ∧
      Completion w environment o s exit s' := by
  rcases hinspection : inspection w environment o s with ⟨failure | report, s₁⟩
  · exact ⟨_, _, run_bind_of_eq hinspection, .failed hinspection⟩
  · cases hout : o.out with
    | none =>
      refine ⟨_, _, (run_bind_of_eq hinspection).trans ?_, .printed hinspection hout⟩
      simp only [hout]
      rfl
    | some path =>
      rcases hwrite : (w.write path (rendered o.format report)).run s₁ with ⟨cause | ⟨⟩, s₂⟩
      · refine ⟨_, _, (run_bind_of_eq hinspection).trans ?_, .unwritten hinspection hout hwrite⟩
        simp only [hout]
        exact run_bind_of_eq hwrite
      · refine ⟨_, _, (run_bind_of_eq hinspection).trans ?_, .written hinspection hout hwrite⟩
        simp only [hout]
        exact run_bind_of_eq hwrite

/-- What an exit status tells about a check, and where the report is. It is 2 if there is none or if
the file that is named for it cannot be written, and otherwise tells whether a rule that counts is
violated. -/
structure Concluded (w : World (StateM σ)) (environment : Option String) (o : Options)
    (look : σ → β) (s : σ) (exit : Exit) (s' : σ) : Prop where
  code_eq_two_iff : exit.code = 2 ↔
    (∃ failure s₁, inspection w environment o s = (.error failure, s₁)) ∨
      ∃ report s₁, inspection w environment o s = (.ok report, s₁) ∧ Unwritten w o report s₁
  silent : ∀ failure s₁, inspection w environment o s = (.error failure, s₁) →
    exit.output = "" ∧ look s' = look s
  code : ∀ report s₁, inspection w environment o s = (.ok report, s₁) → ¬ Unwritten w o report s₁ →
    (exit.code = 0 ↔
      ∀ k ∈ report.categories, ∀ x ∈ k.results, x.outcome = .violated → k.gating = false) ∧
    (exit.code = 1 ↔
      ∃ k ∈ report.categories, k.gating = true ∧ ∃ x ∈ k.results, x.outcome = .violated)
  delivered : ∀ report s₁, inspection w environment o s = (.ok report, s₁) →
    ¬ Unwritten w o report s₁ →
      (o.out = none ∧ exit.output = rendered o.format report ∧ look s' = look s) ∨
      ∃ path, o.out = some path ∧ exit.output = "" ∧
        (w.write path (rendered o.format report)).run s₁ = (.ok (), s')

namespace Completion

variable {exit : Exit} {s' : σ}

theorem of_failed (h : Completion w environment o s exit s') {failure : InspectionFailure}
    (hinspection : inspection w environment o s = (.error failure, s₁)) :
    exit = CommandLine.failed failure.chain ∧ s' = s₁ := by
  cases h with
  | failed hfailed =>
    obtain ⟨hfailure, rfl⟩ := Prod.mk.inj (hfailed.symm.trans hinspection)
    exact ⟨by rw [Except.error.inj hfailure], rfl⟩
  | printed hreport | unwritten hreport | written hreport =>
    exact absurd (hreport.symm.trans hinspection) nofun

theorem of_unwritten (h : Completion w environment o s exit s')
    (hinspection : inspection w environment o s = (.ok report, s₁))
    (hunwritten : Unwritten w o report s₁) : exit.code = 2 := by
  obtain ⟨path, cause, s₂, hout, hwrite⟩ := hunwritten
  cases h with
  | failed | unwritten => rfl
  | printed _ hnone => exact absurd (hnone.symm.trans hout) nofun
  | written hreport hout' hwrite' =>
    obtain ⟨hreport, rfl⟩ := Prod.mk.inj (hreport.symm.trans hinspection)
    obtain rfl := Option.some.inj (hout'.symm.trans hout)
    rw [Except.ok.inj hreport] at hwrite'
    exact absurd (hwrite'.symm.trans hwrite) nofun

/-- A report is printed or written, and the status is that of the verdict. -/
theorem of_reported (h : Completion w environment o s exit s')
    (hinspection : inspection w environment o s = (.ok report, s₁))
    (hwritten : ¬ Unwritten w o report s₁) :
    exit.code = exitCode (verdict report.categories).exitCode ∧
      ((o.out = none ∧ exit.output = rendered o.format report ∧ s' = s₁) ∨
        ∃ path, o.out = some path ∧ exit.output = "" ∧
          (w.write path (rendered o.format report)).run s₁ = (.ok (), s')) := by
  rw [← verdict_of_inspection hinspection]
  cases h with
  | failed hfailed => exact absurd (hfailed.symm.trans hinspection) nofun
  | printed hreport hout =>
    obtain ⟨hreport, rfl⟩ := Prod.mk.inj (hreport.symm.trans hinspection)
    rw [Except.ok.inj hreport]
    exact ⟨rfl, .inl ⟨hout, rfl, rfl⟩⟩
  | unwritten hreport hout hwrite =>
    obtain ⟨hreport, rfl⟩ := Prod.mk.inj (hreport.symm.trans hinspection)
    rw [Except.ok.inj hreport] at hwrite
    exact absurd ⟨_, _, _, hout, hwrite⟩ hwritten
  | written hreport hout hwrite =>
    obtain ⟨hreport, rfl⟩ := Prod.mk.inj (hreport.symm.trans hinspection)
    rw [Except.ok.inj hreport] at hwrite ⊢
    exact ⟨rfl, .inr ⟨_, hout, rfl, hwrite⟩⟩

theorem concluded (h : Completion w environment o s exit s')
    (hlook : Undisturbed w (settings environment o).compiler look) :
    Concluded w environment o look s exit s' where
  code_eq_two_iff := by
    constructor
    · intro htwo
      rcases hinspection : inspection w environment o s with ⟨failure | report, s₁⟩
      · exact .inl ⟨_, _, rfl⟩
      · refine .inr ⟨report, s₁, rfl, ?_⟩
        by_contra hwritten
        exact exitCode_verdict_ne_two _ ((h.of_reported hinspection hwritten).1.symm.trans htwo)
    · rintro (⟨failure, s₁, hinspection⟩ | ⟨report, s₁, hinspection, hunwritten⟩)
      · rw [(h.of_failed hinspection).1]
        rfl
      · exact h.of_unwritten hinspection hunwritten
  silent failure s₁ hinspection := by
    obtain ⟨rfl, rfl⟩ := h.of_failed hinspection
    have hkept := look_inspection hlook s
    rw [hinspection] at hkept
    exact ⟨rfl, hkept⟩
  code report s₁ hinspection hwritten := by
    rw [(h.of_reported hinspection hwritten).1]
    exact ⟨exitCode_verdict_eq_zero_iff_advisory, exitCode_verdict_eq_one_iff⟩
  delivered report s₁ hinspection hwritten := by
    refine (h.of_reported hinspection hwritten).2.imp_left ?_
    rintro ⟨hout, houtput, rfl⟩
    have hkept := look_inspection hlook s
    rw [hinspection] at hkept
    exact ⟨hout, houtput, hkept⟩

end Completion

theorem exists_run_completion {arguments : List String} (hparse : parse arguments = .ok (.check o))
    (hcompiler : o.compiler = none → environment ≠ some "") (s : σ) :
    ∃ exit s', (run w environment arguments).run s = (.ok exit, s') ∧
      Completion w environment o s exit s' := by
  obtain ⟨exit, s', hcheck, hcompletion⟩ := exists_completion w environment o s
  refine ⟨exit, s', ?_, hcompletion⟩
  rw [run, hparse]
  dsimp only
  rw [if_neg fun hempty => hcompiler hempty.1 hempty.2]
  exact run_bind_of_eq hcheck

/-- What a command line comes to that asks for a check. The exit status is 2 exactly if there is no
report or the file that is named for it cannot be written; otherwise it is 0 if all violations are
advisory, and 1 if not. Without a report nothing is printed, and nothing is written: whatever
reading and compiling leave as it is has not changed. With one, it is either printed or written to
the file, in the form that is asked for. Another form and another place make no difference to the
status. -/
theorem run_exitStatus (w : World (StateM σ)) (environment : Option String) (look : σ → β)
    {arguments : List String} {o : Options} (hparse : parse arguments = .ok (.check o))
    (hcompiler : o.compiler = none → environment ≠ some "")
    (hlook : Undisturbed w (settings environment o).compiler look) (s : σ) :
    ∃ exit s', (run w environment arguments).run s = (.ok exit, s') ∧
      Concluded w environment o look s exit s' ∧
      ∀ arguments' o', parse arguments' = .ok (.check o') →
        { o with format := o'.format, out := o'.out } = o' →
        ∀ report s₁, inspection w environment o s = (.ok report, s₁) →
          ¬ Unwritten w o report s₁ → ¬ Unwritten w o' report s₁ →
          ∃ exit' s'', (run w environment arguments').run s = (.ok exit', s'') ∧
            exit'.code = exit.code := by
  obtain ⟨exit, s', hrun, hcompletion⟩ := exists_run_completion (w := w) hparse hcompiler s
  refine ⟨exit, s', hrun, hcompletion.concluded hlook, ?_⟩
  intro arguments' o' hparse' hsame report s₁ hinspection hwritten hwritten'
  -- the inspection does not look at the form and the place of the report
  have hinspection' : inspection w environment o' s = (.ok report, s₁) := by
    rw [← hinspection, ← hsame]
    rfl
  have hcompiler' : o'.compiler = none → environment ≠ some "" := by
    rw [← hsame]
    exact hcompiler
  obtain ⟨exit', s'', hrun', hcompletion'⟩ := exists_run_completion (w := w) hparse' hcompiler' s
  exact ⟨exit', s'', hrun', (hcompletion'.of_reported hinspection' hwritten').1.trans
    (hcompletion.of_reported hinspection hwritten).1.symm⟩

end

/-! ## A folder with one file -/

namespace SmallFolder

open Hierarchy

/-- Files with their paths. There is no compiler among them. -/
def world : World (StateM (List (String × List UInt8))) where
  read path := fun files =>
    (match files.lookup path with
      | some bytes => .ok bytes
      | none => .error .notFound, files)
  write path text := fun files => (.ok (), (path, Text.Utf8.encode text) :: files)
  start _ _ := fun files => (.error .notFound, files)

/-- The output of a compiler for a contract with one function. -/
def output : List UInt8 :=
  SmallOutput.bytes (SmallOutput.tree [SmallOutput.function (SmallOutput.value [])])

def files : List (String × List UInt8) := [("Token.json", output)]

def options (format : Format) (out : Option String) : Options :=
  ⟨"Token.json", "Token", "erc20", format, out, none, [], [], none, 0⟩

theorem undisturbed : Undisturbed world "solc" (List.lookup "report.txt") :=
  ⟨fun _ _ => rfl, fun _ _ => rfl⟩

/-- The contract lacks functions that the standard requires. -/
theorem exists_inspection (format : Format) (out : Option String) :
    ∃ report, inspection world none (options format out) files = (.ok report, files) ∧
      ∃ k ∈ report.categories, k.gating = true ∧ ∃ x ∈ k.results, x.outcome = .violated := by
  obtain ⟨c, hflatten, hviolated⟩ : ∃ c,
      flatten (SmallOutput.units (.identifier "supply" none)) "Token" "Token.json"
        knownLibraries = .ok c ∧
      ∃ k ∈ Standard.erc20.ruleSet.run c, k.gating = true ∧
        ∃ x ∈ k.results, x.outcome = .violated := ⟨_, rfl, by decide +kernel⟩
  obtain ⟨report, -, hreport⟩ := exists_isReportOn (r := ⟨"Token.json", "Token", "erc20"⟩) output
    (tool none) .erc20 hflatten
  have hcompile : (compile world (settings none (options format out))
      ⟨"Token.json", output⟩).run files =
        (.ok (SmallOutput.units (.identifier "supply" none)), files) := by
    have hjson : isPrecompiled "Token.json" = true := by decide
    have hread : Solidity.readUnits output = .ok (SmallOutput.units (.identifier "supply" none)) :=
      SmallOutput.readUnits_bytes
    rw [compile, if_pos hjson, hread]
    rfl
  have hstandard : Standard.ofName? "erc20" = some .erc20 := by decide
  have hname : ∃ c ∈ "Token".toList, Text.isBlank c = false := ⟨'T', by simp, by decide⟩
  refine ⟨report, Ending.run_eq (.reported hstandard hname rfl hcompile hflatten hreport), ?_⟩
  rwa [hreport.categories]

/-- The report goes to the file, the status tells that the contract does not conform, and the same
status comes with a report that is printed in the other form. -/
theorem run_exits_one :
    parse ["Token.json", "Token", "--out", "report.txt"] =
        .ok (.check (options .text (some "report.txt"))) ∧
      Undisturbed world "solc" (List.lookup "report.txt") ∧
      ∃ exit report files', (run world none ["Token.json", "Token", "--out", "report.txt"]).run
          files = (.ok exit, files') ∧
        exit.code = 1 ∧ exit.output = "" ∧
        files'.lookup "report.txt" = some (Text.Utf8.encode (rendered .text report)) ∧
        ∃ exit' files'', (run world none ["Token.json", "Token", "--format", "json"]).run files =
          (.ok exit', files'') ∧ exit'.code = 1 := by
  have hparse : parse ["Token.json", "Token", "--out", "report.txt"] =
      .ok (.check (options .text (some "report.txt"))) := by decide
  have hparse' : parse ["Token.json", "Token", "--format", "json"] =
      .ok (.check (options .json none)) := by decide
  obtain ⟨report, hinspection, hviolated⟩ := exists_inspection .text (some "report.txt")
  have hwritten : ¬ Unwritten world (options .text (some "report.txt")) report files := by
    rintro ⟨path, cause, files', -, hwrite⟩
    exact absurd hwrite nofun
  have hwritten' : ¬ Unwritten world (options .json none) report files := by
    rintro ⟨path, cause, files', hout, -⟩
    exact absurd hout nofun
  obtain ⟨exit, files', hrun, hconcluded, hsame⟩ := run_exitStatus world none
    (List.lookup "report.txt") hparse (fun _ => nofun) undisturbed files
  obtain ⟨exit', files'', hrun', hcode⟩ :=
    hsame _ _ hparse' rfl report files hinspection hwritten hwritten'
  have hone := (hconcluded.code report files hinspection hwritten).2.2 hviolated
  refine ⟨hparse, undisturbed, exit, report, files', hrun, hone, ?_⟩
  obtain ⟨hout, -⟩ | ⟨path, hout, houtput, hwrite⟩ :=
    hconcluded.delivered report files hinspection hwritten
  · exact absurd hout nofun
  · obtain rfl := Option.some.inj hout
    obtain ⟨-, rfl⟩ := Prod.mk.inj hwrite
    exact ⟨houtput, by simp [options], exit', files'', hrun', hcode.trans hone⟩

end SmallFolder

end TokenConformance.CommandLine
