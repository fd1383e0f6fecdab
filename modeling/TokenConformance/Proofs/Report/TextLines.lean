import TokenConformance.Proofs.Standard.SkippedRules
import TokenConformance.Report.Text

/-! # What the text of a report tells

A text is read line by line with nothing else at hand, and tells the results, the tally and the
verdict of the report it is written for.

* `textLines`, `sections`: the lines of a text, and the lines about rules under each header.
* `Report.ToldBy`: all that lines tell of a report.
* `textLines_join`, `sections_lines`: the lines of a written report are got back, and the checklist
  with them.
* `toldBy_text`: so its text tells of a report, if none of the texts in it has a line end.
-/

namespace TokenConformance

/-! ## Reading a text -/

/-- A text without line ends. -/
def OneLine (s : String) : Prop := '\n' ∉ s.toList

/-- The lines of a text, each of which is ended. -/
def textLines (text : String) : List String :=
  (text.toList.splitOn '\n').dropLast.map String.ofList

/-- The header of a category. -/
def IsHeader (line : String) : Prop := "== ".toList <+: line.toList

/-- The header of a category that is not gating. -/
def IsAdvisory (header : String) : Prop := "(advisory)".toList <:+ header.toList

/-- A line about a rule. -/
def IsCheck (line : String) : Prop := "[".toList <+: line.toList

/-- A line with the marker of an outcome. -/
def Marked (o : Outcome) (line : String) : Prop := o.marker.toList <+: line.toList

/-- A line that names a level as the result. -/
def Says (level : Level) (line : String) : Prop :=
  ("Result: " ++ level.text ++ " ").toList <+: line.toList

instance : DecidablePred OneLine := fun _ => inferInstanceAs (Decidable ¬_)

instance : DecidablePred IsHeader := fun _ => inferInstanceAs (Decidable (_ <+: _))

instance : DecidablePred IsAdvisory := fun _ => inferInstanceAs (Decidable (_ <:+ _))

instance : DecidablePred IsCheck := fun _ => inferInstanceAs (Decidable (_ <+: _))

instance (o : Outcome) : DecidablePred (Marked o) := fun _ => inferInstanceAs (Decidable (_ <+: _))

/-- The lines about rules, first those before all headers and then those under each header. -/
def sections : List String → List String × List (String × List String)
  | [] => ([], [])
  | line :: rest =>
    if IsHeader line then ([], (line, (sections rest).1) :: (sections rest).2)
    else if IsCheck line then (line :: (sections rest).1, (sections rest).2)
    else sections rest

/-- The lines under headers, each with its header. -/
def checks (lines : List String) : List (String × String) :=
  (sections lines).2.flatMap fun s => s.2.map (s.1, ·)

/-- The rules of those results whose lines are marked as violated and stand under headers that are
advisory, or under headers that are not. -/
def violatedUnder (advisory : Bool) (lines : List String) (results : List CheckResult) :
    List String :=
  ((results.zip (checks lines)).filter fun (_, header, line) =>
    Marked .violated line ∧ (IsAdvisory header ↔ advisory)).map (·.1.ruleId)

namespace Report

/-- None of the texts in a report has a line end. -/
structure OneLined (r : Report) : Prop where
  version : OneLine r.tool.version
  contract : OneLine r.contract.name
  standard : OneLine r.contract.standard
  path : ∀ path ∈ r.source.path, OneLine path
  warnings : ∀ warning ∈ r.analysis.warnings, OneLine warning
  names : ∀ c ∈ r.categories, OneLine c.name
  titles : ∀ x ∈ r.results, OneLine x.title
  details : ∀ x ∈ r.results, ∀ detail ∈ x.detail, OneLine detail

/-- What lines tell of a report. -/
structure ToldBy (r : Report) (lines : List String) : Prop where
  /-- The lines about rules are those of the results. -/
  results : lines.filter (IsCheck ·) = r.results.map CheckResult.line
  /-- They stand under the headers of their categories. -/
  categories : sections lines =
    ([], r.categories.map fun c => (c.header, c.results.map CheckResult.line))
  /-- They have the markers of their outcomes. -/
  markers : ∀ x ∈ r.results, ∀ o, Marked o x.line ↔ x.outcome = o
  /-- The last line tells how many lines have each marker. -/
  last : lines.getLast? = some ("Result: " ++ r.verdict.level.text ++ " (" ++
    toString (lines.countP (Marked .satisfied ·)) ++ " satisfied, " ++
    toString (lines.countP (Marked .violated ·)) ++ " violated, " ++
    toString (lines.countP (Marked .notApplicable ·)) ++ " not applicable)")
  /-- Each result is counted once. -/
  counts : lines.countP (Marked .satisfied ·) + lines.countP (Marked .violated ·) +
    lines.countP (Marked .notApplicable ·) = r.results.length
  /-- The last line tells of conformance if no violation stands under a header that is not
  advisory. -/
  conformant : (∃ line ∈ lines.getLast?, Says .conformant line) ↔
    ∀ s ∈ (sections lines).2, ∀ line ∈ s.2, Marked .violated line → IsAdvisory s.1
  violated : r.verdict.violated = violatedUnder false lines r.results
  advisory : r.verdict.advisory = violatedUnder true lines r.results
  /-- Each violation is in one of the two lists. -/
  violations : r.verdict.violated.length + r.verdict.advisory.length =
    lines.countP (Marked .violated ·)

end Report

/-! ## Lines -/

theorem splitOn_lines {ls : List String} (h : ∀ l ∈ ls, OneLine l) :
    (String.join (ls.map (· ++ "\n"))).toList.splitOn '\n' = ls.map String.toList ++ [[]] := by
  induction ls with
  | nil => rfl
  | cons l ls ih =>
    rw [List.map_cons, String.join_cons, String.toList_append, String.toList_append,
      List.append_assoc]
    -- The first line end is the one after `l`, which has none of its own.
    refine (List.splitOn_append_cons_self_of_not_mem (h l List.mem_cons_self) _).trans ?_
    rw [List.map_cons, List.cons_append]
    exact congrArg _ (ih fun l' hl' => h l' (List.mem_cons_of_mem _ hl'))

/-- Lines that are written are got back. -/
theorem textLines_join {ls : List String} (h : ∀ l ∈ ls, OneLine l) :
    textLines (String.join (ls.map (· ++ "\n"))) = ls := by
  rw [textLines, splitOn_lines h, List.dropLast_concat, List.map_map]
  exact List.map_id'' (fun _ => String.ofList_toList) ls

@[simp] theorem oneLine_append {a b : String} : OneLine (a ++ b) ↔ OneLine a ∧ OneLine b := by
  simp [OneLine, not_or]

theorem oneLine_toString (n : Nat) : OneLine (toString n) := by
  intro hmem
  have hdigit := Nat.isDigit_of_mem_toDigits (by decide) (Nat.le_refl 10)
    (Nat.toList_repr ▸ hmem : '\n' ∈ Nat.toDigits 10 n)
  exact absurd hdigit (by decide)

theorem oneLine_marker (o : Outcome) : OneLine o.marker := by
  cases o <;> simp [OneLine, Outcome.marker]

theorem oneLine_level (level : Level) : OneLine level.text := by
  cases level <;> simp [OneLine, Level.text]

theorem CheckResult.oneLine_line {x : CheckResult} (htitle : OneLine x.title)
    (hdetail : ∀ detail ∈ x.detail, OneLine detail) : OneLine x.line := by
  unfold CheckResult.line
  cases hx : x.detail with
  | none =>
    simp only [oneLine_append]
    exact ⟨⟨oneLine_marker _, by decide⟩, htitle⟩
  | some detail =>
    simp only [oneLine_append]
    exact ⟨⟨⟨⟨⟨oneLine_marker _, by decide⟩, htitle⟩, by decide⟩, hdetail _ hx⟩, by decide⟩

theorem CategoryResult.oneLine_header {c : CategoryResult} (h : OneLine c.name) :
    OneLine c.header := by
  unfold CategoryResult.header
  split
  · exact oneLine_append.2 ⟨oneLine_append.2 ⟨by decide, h⟩, by decide⟩
  · exact oneLine_append.2 ⟨oneLine_append.2 ⟨by decide, h⟩, by decide⟩

namespace Report

variable {r : Report}

theorem OneLined.preamble (h : r.OneLined) : ∀ l ∈ r.preamble, OneLine l := by
  intro l hl
  simp only [Report.preamble, List.mem_append, List.mem_cons, List.not_mem_nil, or_false,
    Option.mem_toList, Option.map_eq_some_iff, List.mem_map] at hl
  rcases hl with ((rfl | rfl) | ⟨path, hpath, rfl⟩) | ⟨warning, hwarning, rfl⟩
  · simp only [oneLine_append]
    exact ⟨⟨by decide, by decide⟩, h.version⟩
  · simp only [oneLine_append]
    exact ⟨⟨⟨⟨by decide, h.contract⟩, by decide⟩, h.standard⟩, by decide⟩
  · exact oneLine_append.2 ⟨by decide, h.path path hpath⟩
  · exact oneLine_append.2 ⟨by decide, h.warnings warning hwarning⟩

theorem OneLined.category (h : r.OneLined) {c : CategoryResult} (hc : c ∈ r.categories) :
    ∀ l ∈ c.lines, OneLine l := by
  intro l hl
  simp only [CategoryResult.lines, List.mem_cons, List.mem_map] at hl
  rcases hl with rfl | rfl | ⟨x, hx, rfl⟩
  · decide
  · exact CategoryResult.oneLine_header (h.names c hc)
  · have hmem : x ∈ r.results := List.mem_flatMap.2 ⟨c, hc, hx⟩
    exact CheckResult.oneLine_line (h.titles x hmem) (h.details x hmem)

theorem oneLine_resultLine (r : Report) : OneLine r.resultLine := by
  unfold resultLine
  simp only [oneLine_append, oneLine_level, oneLine_toString, and_true]
  decide

theorem OneLined.lines (h : r.OneLined) : ∀ l ∈ r.lines, OneLine l := by
  intro l hl
  simp only [Report.lines, List.mem_append, List.mem_flatMap, List.mem_cons, List.not_mem_nil,
    or_false] at hl
  rcases hl with (hl | ⟨c, hc, hl⟩) | rfl | rfl
  · exact h.preamble l hl
  · exact h.category hc l hl
  · decide
  · exact oneLine_resultLine r

/-- The lines of a written report are got back. -/
theorem textLines_text (h : r.OneLined) : textLines r.text = r.lines := textLines_join h.lines

end Report

/-! ## The beginnings and ends of lines -/

theorem isCheck_line (x : CheckResult) : IsCheck x.line := by
  unfold CheckResult.line
  cases x.outcome <;> cases x.detail <;> simp [IsCheck, Outcome.marker]

theorem marked_line_iff {x : CheckResult} {o : Outcome} : Marked o x.line ↔ x.outcome = o := by
  unfold CheckResult.line
  cases x.outcome <;> cases o <;> cases x.detail <;> simp [Marked, Outcome.marker]

theorem Marked.isCheck {o : Outcome} {l : String} (h : Marked o l) : IsCheck l := by
  refine List.IsPrefix.trans ?_ h
  cases o <;> decide

theorem IsCheck.not_isHeader {l : String} (h : IsCheck l) : ¬IsHeader l := by
  intro hheader
  rcases List.prefix_or_prefix_of_prefix h hheader with h | h <;> revert h <;> decide

theorem isHeader_header (c : CategoryResult) : IsHeader c.header := by
  unfold CategoryResult.header
  split <;> simp [IsHeader]

theorem isAdvisory_header_iff {c : CategoryResult} : IsAdvisory c.header ↔ c.gating = false := by
  unfold CategoryResult.header
  cases c.gating <;> simp [IsAdvisory, ← List.reverse_prefix]

/-- A line of neither sort, as are those around the checklist. -/
def IsPlain (line : String) : Prop := ¬IsHeader line ∧ ¬IsCheck line

theorem isPlain_preamble {r : Report} : ∀ l ∈ r.preamble, IsPlain l := by
  intro l hl
  simp only [Report.preamble, List.mem_append, List.mem_cons, List.not_mem_nil, or_false,
    Option.mem_toList, Option.map_eq_some_iff, List.mem_map] at hl
  rcases hl with ((rfl | rfl) | ⟨path, -, rfl⟩) | ⟨warning, -, rfl⟩ <;>
    simp [IsPlain, IsHeader, IsCheck, Report.toolName]

theorem isPlain_resultLine (r : Report) : IsPlain r.resultLine := by
  unfold Report.resultLine
  simp [IsPlain, IsHeader, IsCheck]

theorem says_resultLine_iff {r : Report} {level : Level} :
    Says level r.resultLine ↔ r.verdict.level = level := by
  unfold Report.resultLine
  cases r.verdict.level <;> cases level <;> simp [Says, Level.text]

/-! ## The checklist is got back -/

theorem sections_plain_append {ls rest : List String} (h : ∀ l ∈ ls, IsPlain l) :
    sections (ls ++ rest) = sections rest := by
  induction ls with
  | nil => rfl
  | cons l ls ih =>
    obtain ⟨hheader, hcheck⟩ := h l List.mem_cons_self
    rw [List.cons_append, sections, if_neg hheader, if_neg hcheck]
    exact ih fun l' hl' => h l' (List.mem_cons_of_mem _ hl')

theorem sections_checks_append {ls rest : List String} (h : ∀ l ∈ ls, IsCheck l) :
    sections (ls ++ rest) = (ls ++ (sections rest).1, (sections rest).2) := by
  induction ls with
  | nil => rfl
  | cons l ls ih =>
    have hcheck := h l List.mem_cons_self
    rw [List.cons_append, sections, if_neg hcheck.not_isHeader, if_pos hcheck,
      ih fun l' hl' => h l' (List.mem_cons_of_mem _ hl')]
    rfl

@[simp] theorem sections_blank (ls : List String) : sections ("" :: ls) = sections ls := by
  rw [sections, if_neg (by decide), if_neg (by decide)]

theorem sections_category_append (c : CategoryResult) (rest : List String) :
    sections (c.lines ++ rest) = ([], (c.header, c.results.map CheckResult.line ++
      (sections rest).1) :: (sections rest).2) := by
  have hchecks : ∀ l ∈ c.results.map CheckResult.line, IsCheck l := by
    simpa using fun x _ => isCheck_line x
  rw [CategoryResult.lines, List.cons_append, sections_blank, List.cons_append, sections,
    if_pos (isHeader_header c), sections_checks_append hchecks]

/-- The lines of a report tell its checklist. -/
theorem Report.sections_lines (r : Report) : sections r.lines =
    ([], r.categories.map fun c => (c.header, c.results.map CheckResult.line)) := by
  obtain ⟨hheader, hcheck⟩ := isPlain_resultLine r
  have hend : sections ["", r.resultLine] = ([], []) := by
    rw [sections_blank, sections, if_neg hheader, if_neg hcheck, sections]
  rw [Report.lines, List.append_assoc, sections_plain_append isPlain_preamble]
  induction r.categories with
  | nil => exact hend
  | cons c cs ih =>
    rw [List.flatMap_cons, List.append_assoc, sections_category_append, ih, List.append_nil]
    rfl

/-- No line about a rule is left out of the sections. -/
theorem filter_isCheck (lines : List String) :
    lines.filter (IsCheck ·) = (sections lines).1 ++ (sections lines).2.flatMap (·.2) := by
  induction lines with
  | nil => rfl
  | cons l ls ih =>
    rw [sections]
    split
    · rename_i hheader
      have hcheck : ¬IsCheck l := fun h => h.not_isHeader hheader
      rw [List.filter_cons_of_neg (by simpa using hcheck), ih]
      rfl
    · split
      · rename_i hcheck
        rw [List.filter_cons_of_pos (by simpa using hcheck), ih]
        rfl
      · rename_i hcheck
        rw [List.filter_cons_of_neg (by simpa using hcheck), ih]

/-! ## Counts -/

theorem countP_marked {lines : List String} {results : List CheckResult}
    (h : lines.filter (IsCheck ·) = results.map CheckResult.line) (o : Outcome) :
    lines.countP (Marked o ·) = results.countP fun x => x.outcome = o := by
  have hchecks : lines.countP (Marked o ·) = (lines.filter (IsCheck ·)).countP (Marked o ·) := by
    rw [List.countP_filter]
    refine List.countP_congr fun l _ => ?_
    simpa using fun hmarked => Marked.isCheck hmarked
  rw [hchecks, h, List.countP_map]
  exact List.countP_congr fun x _ => by simp [marked_line_iff]

theorem countP_outcomes (results : List CheckResult) :
    results.countP (fun x => x.outcome = .satisfied) +
      results.countP (fun x => x.outcome = .violated) +
      results.countP (fun x => x.outcome = .notApplicable) = results.length := by
  induction results with
  | nil => rfl
  | cons x xs ih =>
    simp only [List.countP_cons, List.length_cons]
    cases x.outcome <;> simp <;> omega

theorem violatedIn_cons (gating : Bool) (c : CategoryResult) (cs : List CategoryResult) :
    violatedIn gating (c :: cs) =
      (if c.gating = gating then (c.results.filter fun x => x.outcome = .violated).map (·.ruleId)
        else []) ++ violatedIn gating cs := by
  rw [violatedIn, violatedIn, List.filter_cons]
  split
  · rename_i h
    rw [if_pos (of_decide_eq_true h), List.flatMap_cons, List.filter_append, List.map_append]
  · rename_i h
    rw [if_neg (by simpa using h), List.nil_append]

theorem length_violatedIn (cs : List CategoryResult) :
    (violatedIn true cs).length + (violatedIn false cs).length =
      (cs.flatMap (·.results)).countP fun x => x.outcome = .violated := by
  induction cs with
  | nil => rfl
  | cons c cs ih =>
    rw [violatedIn_cons, violatedIn_cons, List.flatMap_cons, List.countP_append, ← ih,
      List.countP_eq_length_filter]
    cases c.gating <;> simp <;> omega

/-! ## The lists of the verdict -/

section Checklist

variable {lines : List String} {cs : List CategoryResult}

theorem zip_checks
    (h : (sections lines).2 = cs.map fun c => (c.header, c.results.map CheckResult.line)) :
    (cs.flatMap (·.results)).zip (checks lines) =
      cs.flatMap fun c => c.results.map fun x => (x, c.header, x.line) := by
  rw [checks, h, List.flatMap_map]
  clear h
  induction cs with
  | nil => rfl
  | cons c cs ih =>
    have hzip : c.results.zip (c.results.map fun x => (c.header, x.line)) =
        c.results.map fun x => (x, c.header, x.line) := by
      simpa using List.zip_map' (f := id) (g := fun x => (c.header, x.line)) (l := c.results)
    -- A category has as many lines as results, so the two lists stay in step.
    rw [List.flatMap_cons, List.flatMap_cons, List.flatMap_cons, List.map_map,
      List.zip_append (by simp), ih]
    exact congrArg (· ++ _) hzip

theorem violatedUnder_eq
    (h : (sections lines).2 = cs.map fun c => (c.header, c.results.map CheckResult.line))
    (advisory : Bool) :
    violatedUnder advisory lines (cs.flatMap (·.results)) = violatedIn (!advisory) cs := by
  rw [violatedUnder, zip_checks h]
  clear h
  induction cs with
  | nil => rfl
  | cons c cs ih =>
    rw [List.flatMap_cons, List.filter_append, List.map_append, ih, violatedIn_cons,
      List.filter_map, List.map_map]
    refine congrArg (· ++ _) ?_
    simp only [Function.comp_def, marked_line_iff, isAdvisory_header_iff]
    cases c.gating <;> cases advisory <;> simp

theorem marked_isAdvisory_iff
    (h : (sections lines).2 = cs.map fun c => (c.header, c.results.map CheckResult.line)) :
    (∀ s ∈ (sections lines).2, ∀ l ∈ s.2, Marked .violated l → IsAdvisory s.1) ↔
      ∀ c ∈ cs, c.gating = true → ∀ x ∈ c.results, x.outcome ≠ .violated := by
  simp only [h, List.forall_mem_map, marked_line_iff, isAdvisory_header_iff]
  refine forall₂_congr fun c _ => ?_
  cases c.gating <;> simp

end Checklist

/-- The text of a report with the verdict that is due tells its results, with their outcomes and
categories, the tally and the verdict, whatever its texts are as long as they have no line ends. -/
theorem toldBy_text {r : Report} (h : r.OneLined) (hverdict : r.verdict = verdict r.categories) :
    r.ToldBy (textLines r.text) := by
  have hsections := r.sections_lines
  have hunder := congrArg Prod.snd hsections
  have hresults : r.lines.filter (IsCheck ·) = r.results.map CheckResult.line := by
    rw [filter_isCheck, hsections, List.nil_append, List.flatMap_map, Report.results,
      List.map_flatMap]
  have hlast : r.lines.getLast? = some r.resultLine := by simp [Report.lines]
  have hcount := countP_marked hresults
  rw [Report.textLines_text h]
  exact {
    results := hresults
    categories := hsections
    markers := fun _ _ _ => marked_line_iff
    last := by
      rw [hlast, hcount, hcount, hcount]
      rfl
    counts := by
      rw [hcount, hcount, hcount]
      exact countP_outcomes r.results
    conformant := by
      rw [hlast, marked_isAdvisory_iff hunder, ← conformant_verdict_iff, ← hverdict]
      simp [says_resultLine_iff]
    violated := by
      rw [hverdict]
      exact (violatedUnder_eq hunder false).symm
    advisory := by
      rw [hverdict]
      exact (violatedUnder_eq hunder true).symm
    violations := by
      rw [hverdict, hcount]
      exact length_violatedIn r.categories }

/-! ## Texts that look like lines of a report -/

namespace Disguised

/-- A gating category that is called advisory, one without rules, and an advisory one. -/
def categories : List CategoryResult :=
  [⟨"events == (advisory)", true,
      [⟨"EV-1", "[x] Transfer", .satisfied, none⟩,
        ⟨"EV-2", "Approval", .violated, some "[✓] not found"⟩]⟩,
    ⟨"burning", true, []⟩,
    ⟨"getters ==", false,
      [⟨"GT-1", "name", .violated, some "not found"⟩, ⟨"GT-2", "symbol", .notApplicable, none⟩]⟩]

def report : Report where
  schemaVersion := Report.currentSchema
  tool := ⟨Report.toolName, "0.1.0", none⟩
  source := ⟨some "[x] Token.sol", 10, ⟨"sha256", "00"⟩⟩
  contract := ⟨"Token", "ERC20", Report.currentRules⟩
  analysis := .ok ["== Token is abstract =="]
  categories := categories
  verdict := verdict categories

theorem oneLined : report.OneLined := by
  constructor <;> decide

theorem report_toldBy :
    report.OneLined ∧ report.verdict = verdict report.categories ∧
      report.ToldBy (textLines report.text) ∧
      sections (textLines report.text) =
        ([], [("== events == (advisory) ==", ["[✓] [x] Transfer", "[x] Approval ([✓] not found)"]),
          ("== burning ==", []),
          ("== getters == == (advisory)", ["[x] name (not found)", "[-] symbol"])]) ∧
      (textLines report.text).getLast? =
        some "Result: NON_CONFORMANT (1 satisfied, 2 violated, 1 not applicable)" ∧
      violatedUnder false (textLines report.text) report.results = ["EV-2"] ∧
      violatedUnder true (textLines report.text) report.results = ["GT-1"] := by
  have htold := toldBy_text oneLined rfl
  refine ⟨oneLined, rfl, htold, htold.categories.trans (by decide), ?_,
    htold.violated.symm.trans (by decide), htold.advisory.symm.trans (by decide)⟩
  rw [Report.textLines_text oneLined]
  decide

end Disguised

end TokenConformance
