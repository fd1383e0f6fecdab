import TokenConformance.Inspection
import TokenConformance.Proofs.Hierarchy.Reordered
import TokenConformance.Proofs.Text.Words

/-! # Which failure comes first

A check may fail at six places, and an input may be wrong at several of them at once:

* `Hierarchy.name_of_flatten`: a contract goes on with the name that was asked for.
* `IsReportOn`, `exists_isReportOn`: what a report says of the contract, the file and the checklist.
* `Ending`: how a check ends and in which state it leaves the world. Every constructor stands for
  one place, and names the steps before it that went well.
* `inspectWith_run_iff`: a check ends in this way and in no other.
-/

namespace TokenConformance

open Solidity Hierarchy

/-! ## The steps -/

namespace Hierarchy

/-- A flat contract has the name that was asked for. -/
theorem name_of_flatten {units : List SourceUnit} {name sourcePath : String}
    {libraryPrefixes : List String} {c : FlatContract}
    (h : flatten units name sourcePath libraryPrefixes = .ok c) : c.name = name := by
  obtain ⟨t, hierarchy, cs, hflat⟩ := exists_flattening h
  have hmem : t ∈ (contracts units).filter fun c => c.contract.name = name := by
    rcases Option.or_eq_some_iff.1 (target_eq_ok_iff.1 hflat.target) with hfind | ⟨-, hhead⟩
    · exact List.mem_of_find?_eq_some hfind
    · exact List.mem_of_head? hhead
  rw [hflat.contract.1]
  simpa using (List.mem_filter.1 hmem).2

end Hierarchy

theorem SourceFile.sizeBytes_info (f : SourceFile) (h : f.bytes.length < UInt64.size) :
    f.info.sizeBytes.toNat = f.bytes.length :=
  UInt64.toNat_ofNat_of_lt h

/-! ## Endings -/

/-- What a report says about a file of which `c` is the flat contract. The bytes of a file are fewer
than 64 bits can count. -/
structure IsReportOn (r : Request) (tool : Tool) (standard : Standard) (bytes : List UInt8)
    (c : FlatContract) (report : Report) : Prop where
  schema : report.schemaVersion = Report.currentSchema
  tool : report.tool = tool
  source : report.source = SourceFile.info ⟨r.source, bytes⟩
  size : bytes.length < UInt64.size → report.source.sizeBytes.toNat = bytes.length
  contract : report.contract = ⟨r.contract, standard.name, Report.currentRules⟩
  analysis : report.analysis = .ok c.warnings
  categories : report.categories = standard.ruleSet.run c
  verdict : report.verdict = TokenConformance.verdict report.categories

section

variable {r : Request} {tool : Tool} {libraryPrefixes : List String}

theorem IsReportOn.eq {standard : Standard} {bytes : List UInt8} {c : FlatContract}
    {report report' : Report} (h : IsReportOn r tool standard bytes c report)
    (h' : IsReportOn r tool standard bytes c report') : report = report' := by
  obtain ⟨hschema, htool, hsource, -, hcontract, hanalysis, hcategories, hverdict⟩ := h
  obtain ⟨hschema', htool', hsource', -, hcontract', hanalysis', hcategories', hverdict'⟩ := h'
  rw [hcategories] at hverdict
  rw [hcategories'] at hverdict'
  cases report
  cases report'
  simp_all only

theorem reportOn_of_error {bytes : List UInt8} {units : List SourceUnit} {standard : Standard}
    {failure : SourceFailure}
    (h : flatten units r.contract r.source libraryPrefixes = .error failure) :
    reportOn ⟨r.source, bytes⟩ units standard r.contract libraryPrefixes tool = .error failure := by
  rw [reportOn, h]
  rfl

theorem exists_isReportOn (bytes : List UInt8) (tool : Tool) (standard : Standard)
    {units : List SourceUnit} {c : FlatContract}
    (h : flatten units r.contract r.source libraryPrefixes = .ok c) :
    ∃ report, reportOn ⟨r.source, bytes⟩ units standard r.contract libraryPrefixes tool =
        .ok report ∧ IsReportOn r tool standard bytes c report := by
  refine ⟨.ofCheck tool (SourceFile.info ⟨r.source, bytes⟩)
    ⟨c.name, standard.name, Report.currentRules⟩ (.ok c.warnings) (standard.ruleSet.run c)
    (verdict (standard.ruleSet.run c)), ?_, ?_⟩
  · rw [reportOn, h]
    rfl
  · exact
      { schema := rfl
        tool := rfl
        source := rfl
        size := SourceFile.sizeBytes_info ⟨r.source, bytes⟩
        contract := by rw [Report.ofCheck, name_of_flatten h]
        analysis := rfl
        categories := rfl
        verdict := rfl }

variable {σ : Type} {read : String → StateM σ (Except SystemError (List UInt8))}
  {compile : SourceFile → StateM σ (Except SourceFailure (List SourceUnit))}

/-- How a check ends that begins in the state `s` of the world. Reading a file and compiling it may
change the state; where the first two constructors speak of `s`, neither has been tried. -/
inductive Ending (read : String → StateM σ (Except SystemError (List UInt8)))
    (compile : SourceFile → StateM σ (Except SourceFailure (List SourceUnit))) (r : Request)
    (libraryPrefixes : List String) (tool : Tool) (s : σ) :
    Except InspectionFailure Report → σ → Prop where
  | unknownStandard (hstandard : Standard.ofName? r.standard = none) :
      Ending read compile r libraryPrefixes tool s
        (.error (.request (.unknownStandard r.standard Standard.supported))) s
  | emptyName {standard : Standard} (hstandard : Standard.ofName? r.standard = some standard)
      (hname : ∀ c ∈ r.contract.toList, Text.isBlank c = true) :
      Ending read compile r libraryPrefixes tool s (.error (.request .emptyContractName)) s
  | unreadable {standard : Standard} {cause : SystemError} {s₁ : σ}
      (hstandard : Standard.ofName? r.standard = some standard)
      (hname : ∃ c ∈ r.contract.toList, Text.isBlank c = false)
      (hread : (read r.source).run s = (.error cause, s₁)) :
      Ending read compile r libraryPrefixes tool s
        (.error (.source (.unreadable r.source cause))) s₁
  | notCompiled {standard : Standard} {bytes : List UInt8} {failure : SourceFailure} {s₁ s₂ : σ}
      (hstandard : Standard.ofName? r.standard = some standard)
      (hname : ∃ c ∈ r.contract.toList, Text.isBlank c = false)
      (hread : (read r.source).run s = (.ok bytes, s₁))
      (hcompile : (compile ⟨r.source, bytes⟩).run s₁ = (.error failure, s₂)) :
      Ending read compile r libraryPrefixes tool s (.error (.source failure)) s₂
  | notFlattened {standard : Standard} {bytes : List UInt8} {units : List SourceUnit}
      {failure : SourceFailure} {s₁ s₂ : σ}
      (hstandard : Standard.ofName? r.standard = some standard)
      (hname : ∃ c ∈ r.contract.toList, Text.isBlank c = false)
      (hread : (read r.source).run s = (.ok bytes, s₁))
      (hcompile : (compile ⟨r.source, bytes⟩).run s₁ = (.ok units, s₂))
      (hflatten : flatten units r.contract r.source libraryPrefixes = .error failure) :
      Ending read compile r libraryPrefixes tool s (.error (.source failure)) s₂
  | reported {standard : Standard} {bytes : List UInt8} {units : List SourceUnit}
      {c : FlatContract} {report : Report} {s₁ s₂ : σ}
      (hstandard : Standard.ofName? r.standard = some standard)
      (hname : ∃ c ∈ r.contract.toList, Text.isBlank c = false)
      (hread : (read r.source).run s = (.ok bytes, s₁))
      (hcompile : (compile ⟨r.source, bytes⟩).run s₁ = (.ok units, s₂))
      (hflatten : flatten units r.contract r.source libraryPrefixes = .ok c)
      (hreport : IsReportOn r tool standard bytes c report) :
      Ending read compile r libraryPrefixes tool s (.ok report) s₂

/-! ## Checks -/

theorem run_bind_of_eq {α β : Type} {x : StateM σ α} {f : α → StateM σ β} {a : α} {s s₁ : σ}
    (h : x.run s = (a, s₁)) : (x >>= f).run s = (f a).run s₁ := by
  rw [StateT.run_bind, h]
  rfl

theorem inspectWith_of_unknown {m : Type → Type} [Monad m]
    {read : String → m (Except SystemError (List UInt8))}
    {compile : SourceFile → m (Except SourceFailure (List SourceUnit))}
    (h : Standard.ofName? r.standard = none) :
    inspectWith read compile r libraryPrefixes tool =
      pure (.error (.request (.unknownStandard r.standard Standard.supported))) := by
  rw [inspectWith, Standard.parse_eq_error_iff.2 ⟨h, rfl⟩]

theorem inspectWith_of_blank {m : Type → Type} [Monad m]
    {read : String → m (Except SystemError (List UInt8))}
    {compile : SourceFile → m (Except SourceFailure (List SourceUnit))} {standard : Standard}
    (h : Standard.ofName? r.standard = some standard)
    (hname : ∀ c ∈ r.contract.toList, Text.isBlank c = true) :
    inspectWith read compile r libraryPrefixes tool =
      pure (.error (.request .emptyContractName)) := by
  rw [inspectWith, Standard.parse_eq_ok_iff.2 h]
  exact if_pos (Text.trimmed_eq_nil_iff.2 hname)

theorem trimmed_ne_nil {cs : List Char} (h : ∃ c ∈ cs, Text.isBlank c = false) :
    Text.trimmed cs ≠ [] := by
  obtain ⟨c, hc, hblank⟩ := h
  intro hnil
  rw [Text.trimmed_eq_nil_iff.1 hnil c hc] at hblank
  exact absurd hblank (by decide)

section Accepted

variable {standard : Standard} {s s₁ s₂ : σ} {bytes : List UInt8}
  (hstandard : Standard.ofName? r.standard = some standard)
  (hname : ∃ c ∈ r.contract.toList, Text.isBlank c = false)
include hstandard hname

theorem inspectWith_run_of_unreadable {cause : SystemError}
    (hread : (read r.source).run s = (.error cause, s₁)) :
    (inspectWith read compile r libraryPrefixes tool).run s =
      (.error (.source (.unreadable r.source cause)), s₁) := by
  rw [inspectWith, Standard.parse_eq_ok_iff.2 hstandard]
  dsimp only
  rw [if_neg (trimmed_ne_nil hname)]
  exact run_bind_of_eq hread

theorem inspectWith_run_of_notCompiled {failure : SourceFailure}
    (hread : (read r.source).run s = (.ok bytes, s₁))
    (hcompile : (compile ⟨r.source, bytes⟩).run s₁ = (.error failure, s₂)) :
    (inspectWith read compile r libraryPrefixes tool).run s = (.error (.source failure), s₂) := by
  rw [inspectWith, Standard.parse_eq_ok_iff.2 hstandard]
  dsimp only
  rw [if_neg (trimmed_ne_nil hname)]
  exact (run_bind_of_eq hread).trans (run_bind_of_eq hcompile)

theorem inspectWith_run_of_compiled {units : List SourceUnit}
    (hread : (read r.source).run s = (.ok bytes, s₁))
    (hcompile : (compile ⟨r.source, bytes⟩).run s₁ = (.ok units, s₂)) :
    (inspectWith read compile r libraryPrefixes tool).run s =
      ((reportOn ⟨r.source, bytes⟩ units standard r.contract libraryPrefixes tool).mapError
        .source, s₂) := by
  rw [inspectWith, Standard.parse_eq_ok_iff.2 hstandard]
  dsimp only
  rw [if_neg (trimmed_ne_nil hname)]
  refine (run_bind_of_eq hread).trans ((run_bind_of_eq hcompile).trans ?_)
  dsimp only
  cases reportOn ⟨r.source, bytes⟩ units standard r.contract libraryPrefixes tool <;> rfl

end Accepted

theorem Ending.run_eq {s s' : σ} {x : Except InspectionFailure Report}
    (h : Ending read compile r libraryPrefixes tool s x s') :
    (inspectWith read compile r libraryPrefixes tool).run s = (x, s') := by
  cases h with
  | unknownStandard hstandard => rw [inspectWith_of_unknown hstandard]; rfl
  | emptyName hstandard hname => rw [inspectWith_of_blank hstandard hname]; rfl
  | unreadable hstandard hname hread => exact inspectWith_run_of_unreadable hstandard hname hread
  | notCompiled hstandard hname hread hcompile =>
    exact inspectWith_run_of_notCompiled hstandard hname hread hcompile
  | notFlattened hstandard hname hread hcompile hflatten =>
    rw [inspectWith_run_of_compiled hstandard hname hread hcompile, reportOn_of_error hflatten]
    rfl
  | @reported standard bytes _ c _ _ _ hstandard hname hread hcompile hflatten hreport =>
    obtain ⟨report, hok, hreport'⟩ := exists_isReportOn bytes tool standard hflatten
    rw [inspectWith_run_of_compiled hstandard hname hread hcompile, hok, hreport.eq hreport']
    rfl

/-- Every check ends in one of the six ways. -/
theorem exists_ending (read : String → StateM σ (Except SystemError (List UInt8)))
    (compile : SourceFile → StateM σ (Except SourceFailure (List SourceUnit))) (r : Request)
    (libraryPrefixes : List String) (tool : Tool) (s : σ) :
    ∃ x s', Ending read compile r libraryPrefixes tool s x s' := by
  cases hstandard : Standard.ofName? r.standard with
  | none => exact ⟨_, _, .unknownStandard hstandard⟩
  | some standard =>
    by_cases hname : ∃ c ∈ r.contract.toList, Text.isBlank c = false
    case neg =>
      refine ⟨_, _, .emptyName hstandard fun c hc => ?_⟩
      by_contra hblank
      exact hname ⟨c, hc, by simpa using hblank⟩
    case pos =>
      rcases hread : (read r.source).run s with ⟨contents, s₁⟩
      cases contents with
      | error cause => exact ⟨_, _, .unreadable hstandard hname hread⟩
      | ok bytes =>
        rcases hcompile : (compile ⟨r.source, bytes⟩).run s₁ with ⟨compiled, s₂⟩
        cases compiled with
        | error failure => exact ⟨_, _, .notCompiled hstandard hname hread hcompile⟩
        | ok units =>
          cases hflatten : flatten units r.contract r.source libraryPrefixes with
          | error failure =>
            exact ⟨_, _, .notFlattened hstandard hname hread hcompile hflatten⟩
          | ok c =>
            obtain ⟨report, -, hreport⟩ := exists_isReportOn bytes tool standard hflatten
            exact ⟨_, _, .reported hstandard hname hread hcompile hflatten hreport⟩

/-- A check ends in one of six ways, and the first step that fails decides which. A wrong request is
refused before the file is read; an unreadable file is never compiled; what reading, compiling and
flattening say is passed on as it is; and a request that is in order is not refused. -/
theorem inspectWith_run_iff (read : String → StateM σ (Except SystemError (List UInt8)))
    (compile : SourceFile → StateM σ (Except SourceFailure (List SourceUnit))) (r : Request)
    (libraryPrefixes : List String) (tool : Tool) (s : σ) :
    (∀ x s', (inspectWith read compile r libraryPrefixes tool).run s = (x, s') ↔
      Ending read compile r libraryPrefixes tool s x s') ∧
    ((∃ standard, Standard.parse r.standard = .ok standard) →
      (∃ c ∈ r.contract.toList, Text.isBlank c = false) →
        ∀ failure s', (inspectWith read compile r libraryPrefixes tool).run s ≠
          (.error (.request failure), s')) := by
  have hending : ∀ x s', (inspectWith read compile r libraryPrefixes tool).run s = (x, s') ↔
      Ending read compile r libraryPrefixes tool s x s' := by
    intro x s'
    refine ⟨fun hrun => ?_, Ending.run_eq⟩
    obtain ⟨y, s'', h⟩ := exists_ending read compile r libraryPrefixes tool s
    obtain ⟨rfl, rfl⟩ := Prod.mk.inj (hrun.symm.trans h.run_eq)
    exact h
  refine ⟨hending, ?_⟩
  rintro ⟨standard, hstandard⟩ ⟨c, hc, hblank⟩ failure s' hrun
  rw [Standard.parse_eq_ok_iff] at hstandard
  cases (hending _ _).1 hrun with
  | unknownStandard hnone => exact absurd (hstandard.symm.trans hnone) (by simp)
  | emptyName _ hname => exact absurd (hblank.symm.trans (hname c hc)) (by decide)

end

/-! ## A file that is not there -/

/-- Notes what is done, and answers always the same. -/
def noting {α β : Type} (note : α → String) (answer : β) (a : α) : StateM (List String) β := do
  modify (note a :: ·)
  return answer

/-- A check that finds no file and would find no syntax tree. -/
def missingFileCheck : StateM (List String) (Except InspectionFailure Report) :=
  inspectWith (noting ("read " ++ ·) (.error .notFound))
    (noting (fun f => "compile " ++ f.path) (.error .noSyntaxTree))
    ⟨"Token.sol", "Token", "erc-20"⟩ [] ⟨"ercscope", "1.0.0", none⟩

/-- The file is looked for and not found, and no compiler is started. -/
theorem missing_file_ends_check :
    (∃ standard, Standard.parse "erc-20" = .ok standard) ∧
      (∃ c ∈ "Token".toList, Text.isBlank c = false) ∧
      missingFileCheck.run [] =
        (.error (.source (.unreadable "Token.sol" .notFound)), ["read Token.sol"]) ∧
      ∀ failure s', missingFileCheck.run [] ≠ (.error (.request failure), s') := by
  have hstandard : Standard.ofName? "erc-20" = some .erc20 := by decide
  have hparse : ∃ standard, Standard.parse "erc-20" = .ok standard :=
    ⟨_, Standard.parse_eq_ok_iff.2 hstandard⟩
  have hname : ∃ c ∈ "Token".toList, Text.isBlank c = false := ⟨'T', by simp, by decide⟩
  have hcheck := inspectWith_run_iff (noting ("read " ++ ·) (.error .notFound))
    (noting (fun f => "compile " ++ f.path) (.error .noSyntaxTree))
    ⟨"Token.sol", "Token", "erc-20"⟩ [] ⟨"ercscope", "1.0.0", none⟩ []
  exact ⟨hparse, hname, (hcheck.1 _ _).2 (.unreadable hstandard hname rfl), hcheck.2 hparse hname⟩

end TokenConformance
