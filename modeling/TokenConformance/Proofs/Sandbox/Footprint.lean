import TokenConformance.Proofs.CommandLine.ExitStatus
import TokenConformance.Sandbox.World

/-! # What a check looks at and what it leaves behind

* `fst_check_of_precompiled`: the exit of a check of compiler output follows from the options and
  the bytes of that file, whatever the world is in which it is made.
* `FileTree.Keeps`: what stands elsewhere in a tree of files has not changed.
* `FileTree.keeps_write`: a file is written, and everything else is kept.
* `exists_footprint`: in a world that consists of a tree of files, a check changes nothing on its
  own but the file that is named for the report. All other changes are the work of the compiler.
* `snd_run_of_precompiled`: a command line that needs no compiler and names no such file changes
  nothing.
-/

namespace TokenConformance

open Solidity

/-! ## What a check looks at -/

namespace CommandLine

/-- How a check ends whose report is printed, by what the inspection comes to. -/
def printedExit (format : Format) : Except InspectionFailure Report → Exit
  | .error failure => failed failure.chain
  | .ok report => ⟨exitCode report.verdict.exitCode, rendered format report, ""⟩

section

variable {σ σ₁ σ₂ : Type} {w : World (StateM σ)} {w₁ : World (StateM σ₁)} {w₂ : World (StateM σ₂)}
  {environment environment₁ environment₂ : Option String} {o : Options} {s : σ} {s₁ : σ₁} {s₂ : σ₂}

theorem fst_check_of_printed (hout : o.out = none) :
    ((check w environment o).run s).1 = printedExit o.format (inspection w environment o s).1 := by
  obtain ⟨exit, s', hcheck, hcompletion⟩ := exists_completion w environment o s
  rw [hcheck]
  cases hcompletion with
  | failed hinspection => rw [hinspection]; rfl
  | printed hinspection => rw [hinspection]; rfl
  | unwritten _ hpath | written _ hpath => exact absurd (hpath.symm.trans hout) nofun

theorem compile_of_precompiled {m : Type → Type} [Monad m] {w : World m} {c : Settings}
    {path : String} {bytes : List UInt8} (hjson : isPrecompiled path = true) :
    compile w c ⟨path, bytes⟩ = pure (readUnits bytes) :=
  if_pos hjson

/-- The inspection of compiler output follows from the bytes that are read. No compiler is asked
for, so neither its name nor what it would do has any influence. -/
theorem fst_inspection_of_precompiled (hjson : isPrecompiled o.source = true)
    (hread : ((w₁.read o.source).run s₁).1 = ((w₂.read o.source).run s₂).1) :
    (inspection w₁ environment₁ o s₁).1 = (inspection w₂ environment₂ o s₂).1 := by
  obtain ⟨x, s', hending⟩ := exists_ending w₁.read (compile w₁ (settings environment₁ o))
    ⟨o.source, o.contract, o.standard⟩ (settings environment₁ o).libraryPrefixes (tool o.commit) s₁
  have hrun : inspection w₁ environment₁ o s₁ = (x, s') := hending.run_eq
  suffices hother : ∃ s'', Ending w₂.read (compile w₂ (settings environment₂ o))
      ⟨o.source, o.contract, o.standard⟩ (settings environment₂ o).libraryPrefixes (tool o.commit)
      s₂ x s'' by
    obtain ⟨s'', hother⟩ := hother
    have hrun' : inspection w₂ environment₂ o s₂ = (x, s'') := hother.run_eq
    rw [hrun, hrun']
  -- the two worlds may be left in different states, but what is read is the same
  obtain ⟨y, s'', hread₂⟩ : ∃ y s'', (w₂.read o.source).run s₂ = (y, s'') := ⟨_, _, rfl⟩
  have hsame : ∀ {y' s₁'}, (w₁.read o.source).run s₁ = (y', s₁') →
      (w₂.read o.source).run s₂ = (y', s'') := by
    intro y' s₁' hread₁
    rw [hread₁, hread₂] at hread
    rw [hread₂, ← show y' = y from hread]
  have hunits : ∀ {bytes x s₁' s₂'},
      (compile w₁ (settings environment₁ o) ⟨o.source, bytes⟩).run s₁' = (x, s₂') →
        (compile w₂ (settings environment₂ o) ⟨o.source, bytes⟩).run s'' = (x, s'') := by
    intro bytes x s₁' s₂' hcompile
    rw [compile_of_precompiled hjson, StateT.run_pure] at hcompile ⊢
    rw [(Prod.mk.inj hcompile).1]
    rfl
  cases hending with
  | unknownStandard hstandard => exact ⟨_, .unknownStandard hstandard⟩
  | emptyName hstandard hname => exact ⟨_, .emptyName hstandard hname⟩
  | unreadable hstandard hname hread₁ => exact ⟨_, .unreadable hstandard hname (hsame hread₁)⟩
  | notCompiled hstandard hname hread₁ hcompile =>
    exact ⟨_, .notCompiled hstandard hname (hsame hread₁) (hunits hcompile)⟩
  | notFlattened hstandard hname hread₁ hcompile hflatten =>
    exact ⟨_, .notFlattened hstandard hname (hsame hread₁) (hunits hcompile) hflatten⟩
  | reported hstandard hname hread₁ hcompile hflatten hreport =>
    exact ⟨_, .reported hstandard hname (hsame hread₁) (hunits hcompile) hflatten hreport⟩

/-- A check of compiler output can be repeated anywhere: where the file has the same bytes, the
status is the same and so is everything that is printed. -/
theorem fst_check_of_precompiled (hjson : isPrecompiled o.source = true) (hout : o.out = none)
    (hread : ((w₁.read o.source).run s₁).1 = ((w₂.read o.source).run s₂).1) :
    ((check w₁ environment₁ o).run s₁).1 = ((check w₂ environment₂ o).run s₂).1 := by
  rw [fst_check_of_printed hout, fst_check_of_printed hout,
    fst_inspection_of_precompiled hjson hread]

end

end CommandLine

/-! ## What a check leaves behind -/

namespace Sandbox

open Sandbox.Text (Bytes)

namespace FileTree

variable {t t' : FileTree} {here other : Place} {n : Nat}

/-- What stands in one tree stands in the other one at the same place, the place `here` and the
other names of what is there apart. -/
def Keeps (here : Place) (t t' : FileTree) : Prop :=
  ∀ other node, t.node? other = some node → t.number? other ≠ t.number? here →
    t'.node? other = some node

theorem Keeps.refl (here : Place) (t : FileTree) : Keeps here t t := fun _ _ hnode _ => hnode

theorem node?_eq_some_iff {node : Node} :
    t.node? other = some node ↔ ∃ i, t.number? other = some i ∧ t.nodes[i]? = some node :=
  Option.bind_eq_some_iff

theorem keeps_modify (f : Node → Node) (hnumber : t.number? here = some n) :
    Keeps here t (t.modify n f) := by
  intro other node hnode hne
  obtain ⟨i, hi, hat⟩ := node?_eq_some_iff.1 hnode
  have hni : n ≠ i := fun h => hne (by rw [hi, hnumber, h])
  refine node?_eq_some_iff.2 ⟨i, hi, ?_⟩
  rw [modify, Array.getElem?_modify, if_neg hni, hat]

theorem keeps_setContent (content : Bytes) (hnumber : t.number? here = some n) :
    Keeps here t (t.setContent n content) :=
  keeps_modify _ hnumber

theorem lookup_filter_of_ne (hne : other ≠ here) (entries : List (Place × Nat)) :
    (entries.filter fun e => e.1 ≠ here).lookup other = entries.lookup other := by
  induction entries with
  | nil => rfl
  | cons e entries ih =>
    obtain ⟨key, i⟩ := e
    by_cases hkey : key = here
    · have hother : (other == key) = false := beq_eq_false_iff_ne.2 (hkey ▸ hne)
      rw [List.filter_cons_of_neg (by simp [hkey]), ih, List.lookup_cons, hother]
    · rw [List.filter_cons_of_pos (by simp [hkey]), List.lookup_cons, List.lookup_cons, ih]

theorem number?_place_of_ne (hne : other ≠ here) :
    (t.place here n).number? other = t.number? other := by
  have hother : (other == here) = false := beq_eq_false_iff_ne.2 hne
  rw [number?, place, List.lookup_cons, hother]
  exact lookup_filter_of_ne hne t.entries

theorem keeps_add (kind : Kind) (mode : Nat) : Keeps here t (t.add here kind mode) := by
  intro other node hnode hne
  obtain ⟨i, hi, hat⟩ := node?_eq_some_iff.1 hnode
  have hother : other ≠ here := fun h => hne (congrArg t.number? h)
  refine node?_eq_some_iff.2 ⟨i, (number?_place_of_ne hother).trans hi, ?_⟩
  have hlt : i < t.nodes.size := (Array.getElem?_eq_some_iff.1 hat).1
  rw [add, place, Array.getElem?_push_lt hlt, ← hat, Array.getElem?_eq_getElem hlt]

/-- A file is written at the place to which the path leads, and everything else is kept. -/
theorem keeps_write {path content : Bytes} (h : t.write path content = .ok t') :
    ∃ here, t.findForWriting mostLinks t.home path = .ok here ∧ Keeps here t t' := by
  unfold write at h
  cases hplace : t.findForWriting mostLinks t.home path with
  | error e => rw [hplace] at h; exact absurd h nofun
  | ok here =>
    refine ⟨here, rfl, ?_⟩
    simp only [hplace, bind, Except.bind] at h
    cases hnumber : t.number? here with
    | none =>
      rw [hnumber] at h
      obtain rfl := Except.ok.inj h
      exact keeps_add _ _
    | some n =>
      rw [hnumber] at h
      dsimp only at h
      split at h
      · exact absurd h nofun
      · exact absurd h nofun
      · obtain rfl := Except.ok.inj h
        exact .refl here t
      · obtain rfl := Except.ok.inj h
        exact keeps_modify _ hnumber
      · obtain rfl := Except.ok.inj h
        exact keeps_setContent content hnumber

end FileTree

open CommandLine

variable {given : Environment} {environment : Option String} {o : Options} {t : FileTree}

/-- The tree after the compiler, which is not started for the output of one. -/
def afterCompiler (given : Environment) (c : Settings) (path : String) (t : FileTree) :
    FileTree :=
  if isPrecompiled path then t
  else ((runProgram given c.compiler
    (c.compilerArguments ++ ["--combined-json", "ast", path])).run t).2

theorem snd_compile (c : Settings) (source : SourceFile) :
    ((compile (world given) c source).run t).2 = afterCompiler given c source.path t := by
  unfold compile afterCompiler
  split
  · rfl
  · rw [StateT.run_bind]
    have hstart : (world given).start = runProgram given := rfl
    rw [hstart]
    generalize runProgram given c.compiler _ = started
    rcases started.run t with ⟨cause | result, t'⟩ <;> rfl

theorem run_write (path text : String) :
    ((world given).write path text).run t =
      match do t.write (← checkedPath path) (Bytes.ofString text) with
      | .ok t' => (.ok (), t')
      | .error cause => (.error cause, t) :=
  rfl

/-- A file that cannot be written leaves the tree as it was. -/
theorem write_of_error {path text : String} {cause : SystemError} {t' : FileTree}
    (hwrite : ((world given).write path text).run t = (.error cause, t')) : t' = t := by
  rw [run_write] at hwrite
  split at hwrite
  · exact absurd hwrite nofun
  · exact (Prod.mk.inj hwrite).2.symm

theorem keeps_of_written {path text : String} {t' : FileTree}
    (hwrite : ((world given).write path text).run t = (.ok (), t')) :
    ∃ here, t.findForWriting mostLinks t.home (Bytes.ofString path) = .ok here ∧
      FileTree.Keeps here t t' := by
  rw [run_write] at hwrite
  split at hwrite
  next files hfiles =>
    obtain rfl : files = t' := (Prod.mk.inj hwrite).2
    unfold checkedPath at hfiles
    split at hfiles
    · exact absurd hfiles nofun
    · exact FileTree.keeps_write hfiles
  next => exact absurd hwrite nofun

/-- Reading leaves no trace, so after an inspection the tree is as it was or as the compiler left
it. -/
theorem snd_inspection (given : Environment) (environment : Option String) (o : Options)
    (t : FileTree) :
    (inspection (world given) environment o t).2 = t ∨
      (inspection (world given) environment o t).2 =
        afterCompiler given (settings environment o) o.source t := by
  obtain ⟨x, t', hending⟩ := exists_ending (world given).read
    (compile (world given) (settings environment o)) ⟨o.source, o.contract, o.standard⟩
    (settings environment o).libraryPrefixes (tool o.commit) t
  have hrun : inspection (world given) environment o t = (x, t') := hending.run_eq
  rw [hrun]
  have hafterRead : ∀ {x t₁}, ((world given).read o.source).run t = (x, t₁) → t₁ = t := by
    intro x t₁ hread
    exact (Prod.mk.inj hread).2.symm
  have hafterCompile : ∀ {bytes x t₁ t₂},
      (compile (world given) (settings environment o) ⟨o.source, bytes⟩).run t₁ = (x, t₂) →
        t₂ = afterCompiler given (settings environment o) o.source t₁ := by
    intro bytes x t₁ t₂ hcompile
    rw [← snd_compile (settings environment o) ⟨o.source, bytes⟩, hcompile]
  cases hending with
  | unknownStandard | emptyName => exact .inl rfl
  | unreadable _ _ hread => exact .inl (hafterRead hread)
  | notCompiled _ _ hread hcompile | notFlattened _ _ hread hcompile
  | reported _ _ hread hcompile =>
    obtain rfl := hafterRead hread
    exact .inr (hafterCompile hcompile)

/-- A check leaves the tree as it was, or as the compiler left it. If a file is named for the
report, it may have been written after that, and nothing else has changed. -/
theorem exists_footprint (given : Environment) (environment : Option String) (o : Options)
    (t : FileTree) :
    ∃ t₁, (t₁ = t ∨ t₁ = afterCompiler given (settings environment o) o.source t) ∧
      (((check (world given) environment o).run t).2 = t₁ ∨
        ∃ path here, o.out = some path ∧
          t₁.findForWriting mostLinks t₁.home (Bytes.ofString path) = .ok here ∧
          FileTree.Keeps here t₁ ((check (world given) environment o).run t).2) := by
  refine ⟨_, snd_inspection given environment o t, ?_⟩
  obtain ⟨exit, t', hcheck, hcompletion⟩ := exists_completion (world given) environment o t
  rw [hcheck]
  cases hcompletion with
  | failed hinspection | printed hinspection => rw [hinspection]; exact .inl rfl
  | unwritten hinspection _ hwrite =>
    rw [hinspection]
    exact .inl (write_of_error hwrite)
  | written hinspection hout hwrite =>
    rw [hinspection]
    obtain ⟨here, hplace, hkeeps⟩ := keeps_of_written hwrite
    exact .inr ⟨_, here, hout, hplace, hkeeps⟩

/-- A check of compiler output changes no file but the one that is named for the report. -/
theorem exists_footprint_of_precompiled (hjson : isPrecompiled o.source = true) :
    ((check (world given) environment o).run t).2 = t ∨
      ∃ path here, o.out = some path ∧
        t.findForWriting mostLinks t.home (Bytes.ofString path) = .ok here ∧
        FileTree.Keeps here t ((check (world given) environment o).run t).2 := by
  obtain ⟨t₁, hbefore, hafter⟩ := exists_footprint given environment o t
  have hsame : t₁ = t := hbefore.elim id fun h => h.trans (if_pos hjson)
  rwa [hsame] at hafter

/-- A command line that reads compiler output and prints its report changes no file, and neither does
one that is wrong or asks for a text about the program. -/
theorem snd_run_of_precompiled {arguments : List String}
    (h : ∀ o, parse arguments = .ok (.check o) → isPrecompiled o.source = true ∧ o.out = none) :
    ((run (world given) environment arguments).run t).2 = t := by
  unfold run
  cases hparse : parse arguments with
  | error e => rfl
  | ok invocation =>
    cases invocation with
    | version | help => rfl
    | check o =>
      obtain ⟨hjson, hout⟩ := h o hparse
      dsimp only
      split
      · rfl
      · have hfootprint : ((check (world given) environment o).run t).2 = t ∨ _ :=
          exists_footprint_of_precompiled hjson
        obtain hsame | ⟨path, here, hpath, -⟩ := hfootprint
        · rw [StateT.run_bind]
          exact hsame
        · exact absurd (hpath.symm.trans hout) nofun

end Sandbox

end TokenConformance
