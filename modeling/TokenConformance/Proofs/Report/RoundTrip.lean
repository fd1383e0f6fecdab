import TokenConformance.CommandLine.Run
import TokenConformance.Proofs.Json.Pretty

/-! # Reports are read as they are written

A report is written as a value, and the value as a text; both steps can be undone. What a field is
written as is read back by the reader of that field, and an object that has been written with
distinct declared keys gives its fields as they are.

* `record?_ofFields`: the fields of a written record.
* `listOf?_map`, `nullable?_ofOption`, `intIn?_ofInt`: lists, missing data and numbers.
* `CheckResult.ofJson?_toJson` and the like: each part of a report is read as it is written.
* `Report.writable_toJson`: the value of a report has a text that can be read.
* `Report.ofJson?_rendered`: a report in the form of JSON is read as the report, and is as plain
  text what it has been before.
-/

namespace TokenConformance

/-! ## Fields and plain values -/

namespace Json

/-- A list that is written element by element is read as it is. -/
theorem mapM_map_eq_some {α β : Type} {read : β → Option α} (write : α → β)
    (h : ∀ x, read (write x) = some x) (l : List α) : (l.map write).mapM read = some l := by
  induction l with
  | nil => rfl
  | cons x l ih => rw [List.map_cons, List.mapM_cons, h x, ih]; rfl

/-- A record that is written with distinct declared fields, in their order, gives these fields. -/
theorem record?_ofFields {names : List String} {fields : List (String × Json)}
    (hkeys : (fields.map (·.1)).Sublist names) (hnames : names.Nodup) :
    (ofFields fields).record? names = some ⟨false, fields⟩ := by
  have hnamed : namedFields? (fields.map fun f => (some f.1, f.2)) = some fields :=
    mapM_map_eq_some (fun f : String × Json => (some f.1, f.2)) (fun _ => rfl) fields
  have hknown : fields.filter (fun f => f.1 ∈ names) = fields :=
    List.filter_eq_self.2 fun f hf =>
      decide_eq_true (hkeys.subset (List.mem_map_of_mem hf))
  simp only [ofFields, record?, hnamed, Option.bind_eq_bind, Option.bind_some, hknown,
    if_pos (hkeys.nodup hnames)]

@[simp] theorem text?_ofString (s : String) : (ofString s).text? = some s := rfl

@[simp] theorem choice?_ofString (s : String) : (ofString s).choice? = some s := rfl

@[simp] theorem bool?_bool (b : Bool) : (Json.bool b).bool? = some b := rfl

@[simp] theorem nullable?_ofString (s : String) :
    (ofString s).nullable? text? = some (some s) := rfl

@[simp] theorem nullable?_ofOption (s : Option String) :
    (ofOption s).nullable? text? = some s := by
  cases s <;> rfl

theorem listOf?_map {α : Type} {read : Json → Option α} (write : α → Json)
    (h : ∀ x, read (write x) = some x) (l : List α) :
    listOf? read (.array (l.map write)) = some l :=
  mapM_map_eq_some write h l

@[simp] theorem listOf?_ofStrings (l : List String) : (ofStrings l).listOf? text? = some l :=
  listOf?_map ofString text?_ofString l

theorem toInt?_ofInt (i : Int) : (Number.ofInt i).toInt? = some i := by
  unfold Number.ofInt Number.toInt?
  rw [if_pos ⟨rfl, rfl⟩]
  dsimp only
  by_cases hneg : i < 0
  · rw [if_pos (decide_eq_true hneg), if_neg (by omega)]
    exact congrArg some (by omega)
  · rw [if_neg (by simpa using hneg)]
    exact congrArg some (by omega)

/-- An integer in the range of a field is read as it is written. -/
theorem intIn?_ofInt {low high i : Int} (h : low ≤ i ∧ i ≤ high) :
    (ofInt i).intIn? low high = some i := by
  rw [ofInt, intIn?, Number.toIntIn?, toInt?_ofInt, Option.filter_some, if_pos (decide_eq_true h)]

@[simp] theorem uint64?_ofInt (n : UInt64) : (ofInt n.toNat).uint64? = some n := by
  have hlt := n.toNat_lt
  rw [uint64?, intIn?_ofInt (by omega), Option.map_some, Int.toNat_natCast, UInt64.ofNat_toNat]

@[simp] theorem int32?_ofInt (n : Int32) : (ofInt n.toInt).int32? = some n := by
  have hlow := n.minValue_le_toInt
  have hhigh := n.toInt_le
  have hrange : (-2147483648 : Int) ≤ n.toInt ∧ n.toInt ≤ 2147483647 := ⟨hlow, hhigh⟩
  rw [int32?, intIn?_ofInt hrange, Option.map_some, Int32.ofInt_toInt]

end Json

open Json

@[simp] theorem Outcome.ofText?_text (o : Outcome) : Outcome.ofText? o.text = some o := by
  cases o <;> rfl

@[simp] theorem Level.ofText?_text (l : Level) : Level.ofText? l.text = some l := by
  cases l <;> rfl

/-! ## The parts of a report -/

@[simp] theorem Tool.ofJson?_toJson (t : Tool) : Tool.ofJson? t.toJson = some t := by
  rw [Tool.ofJson?, Tool.toJson, record?_ofFields (by exact .refl _) (by decide)]
  simp [Record.required, Record.optional, Record.find?]

/-- The value of a fingerprint. -/
def Fingerprint.toJson (f : Fingerprint) : Json :=
  .ofFields [("algorithm", .ofString f.algorithm), ("value", .ofString f.value)]

@[simp] theorem Fingerprint.ofJson?_toJson (f : Fingerprint) :
    Fingerprint.ofJson? f.toJson = some f := by
  rw [Fingerprint.ofJson?, Fingerprint.toJson, record?_ofFields (by exact .refl _) (by decide)]
  simp [Record.required, Record.find?]

theorem SourceInfo.toJson_eq (s : SourceInfo) :
    s.toJson = .ofFields [("path", .ofOption s.path), ("size_bytes", .ofInt s.sizeBytes.toNat),
      ("hash", s.hash.toJson)] := rfl

@[simp] theorem SourceInfo.ofJson?_toJson (s : SourceInfo) :
    SourceInfo.ofJson? s.toJson = some s := by
  rw [SourceInfo.ofJson?, SourceInfo.toJson_eq, record?_ofFields (by exact .refl _) (by decide)]
  simp [Record.required, Record.optional, Record.find?]

@[simp] theorem ContractInfo.ofJson?_toJson (c : ContractInfo) :
    ContractInfo.ofJson? c.toJson = some c := by
  rw [ContractInfo.ofJson?, ContractInfo.toJson, record?_ofFields (by exact .refl _) (by decide)]
  simp [Record.required, Record.find?]

@[simp] theorem Analysis.ofJson?_toJson (a : Analysis) : Analysis.ofJson? a.toJson = some a := by
  rw [Analysis.ofJson?, Analysis.toJson, record?_ofFields (by exact .refl _) (by decide)]
  simp [Record.required, Record.find?]

/-- A detail that is missing is left out, and read as missing. -/
theorem CheckResult.ofJson?_toJson (r : CheckResult) : CheckResult.ofJson? r.toJson = some r := by
  obtain ⟨id, title, outcome, detail⟩ := r
  cases detail with
  | none =>
    have hkeys : ["rule_id", "title", "outcome"].Sublist
        ["rule_id", "title", "outcome", "detail"] := by decide
    rw [CheckResult.ofJson?, CheckResult.toJson, record?_ofFields (by exact hkeys) (by decide)]
    simp [Record.required, Record.optional, Record.find?]
  | some detail =>
    rw [CheckResult.ofJson?, CheckResult.toJson, record?_ofFields (by exact .refl _) (by decide)]
    simp [Record.required, Record.optional, Record.find?]

theorem CategoryResult.ofJson?_toJson (c : CategoryResult) :
    CategoryResult.ofJson? c.toJson = some c := by
  rw [CategoryResult.ofJson?, CategoryResult.toJson,
    record?_ofFields (by exact .refl _) (by decide)]
  simp [Record.required, Record.find?,
    listOf?_map CheckResult.toJson CheckResult.ofJson?_toJson]

@[simp] theorem Verdict.ofJson?_toJson (v : Verdict) : Verdict.ofJson? v.toJson = some v := by
  rw [Verdict.ofJson?, Verdict.toJson, record?_ofFields (by exact .refl _) (by decide)]
  simp [Record.required, Record.find?]

/-- The value of a report describes the report. -/
theorem Report.ofJson?_toJson (r : Report) : Report.ofJson? r.toJson = some r := by
  rw [Report.ofJson?, Report.toJson, record?_ofFields (by exact .refl _) (by decide)]
  simp [Record.required, Record.find?,
    listOf?_map CategoryResult.toJson CategoryResult.ofJson?_toJson]

/-! ## Texts of reports -/

theorem Json.writable_ofFields {fields : List (String × Json)}
    (h : ∀ f ∈ fields, Writable f.2) : Writable (ofFields fields) := by
  refine .object fun f hf => ?_
  obtain ⟨f, hmem, rfl⟩ := List.mem_map.1 hf
  exact h f hmem

theorem Json.writable_map {α : Type} {write : α → Json} (h : ∀ x, Writable (write x))
    (l : List α) : Writable (.array (l.map write)) := by
  refine .array fun item hitem => ?_
  obtain ⟨x, -, rfl⟩ := List.mem_map.1 hitem
  exact h x

@[simp] theorem Json.writable_ofString (s : String) : Writable (ofString s) := .string _

@[simp] theorem Json.writable_ofInt (i : Int) : Writable (ofInt i) :=
  .number fun _ hd => absurd hd List.not_mem_nil

@[simp] theorem Json.writable_ofOption (s : Option String) : Writable (ofOption s) := by
  cases s with
  | none => exact .null
  | some s => exact .string _

@[simp] theorem Json.writable_ofStrings (l : List String) : Writable (ofStrings l) :=
  writable_map writable_ofString l

@[simp] theorem Tool.writable_toJson (t : Tool) : Writable t.toJson :=
  writable_ofFields (by simp)

@[simp] theorem Fingerprint.writable_toJson (f : Fingerprint) : Writable f.toJson :=
  writable_ofFields (by simp)

@[simp] theorem SourceInfo.writable_toJson (s : SourceInfo) : Writable s.toJson := by
  rw [SourceInfo.toJson_eq]
  exact writable_ofFields (by simp)

@[simp] theorem ContractInfo.writable_toJson (c : ContractInfo) : Writable c.toJson :=
  writable_ofFields (by simp)

@[simp] theorem Analysis.writable_toJson (a : Analysis) : Writable a.toJson :=
  writable_ofFields (by simp)

theorem CheckResult.writable_toJson (r : CheckResult) : Writable r.toJson := by
  refine writable_ofFields fun f hf => ?_
  rcases List.mem_append.1 hf with hf | hf
  · revert f
    simp
  · obtain ⟨detail, -, rfl⟩ := Option.map_eq_some_iff.1 (Option.mem_toList.1 hf)
    exact writable_ofString detail

theorem CategoryResult.writable_toJson (c : CategoryResult) : Writable c.toJson :=
  writable_ofFields (by simp [writable_map CheckResult.writable_toJson])

@[simp] theorem Verdict.writable_toJson (v : Verdict) : Writable v.toJson :=
  writable_ofFields (by simp)

/-- The value of a report has a text that can be read. -/
theorem Report.writable_toJson (r : Report) : Writable r.toJson :=
  writable_ofFields (by simp [writable_map CategoryResult.writable_toJson])

/-- The text of a report is read as the value of the report, also with a line end after it. -/
theorem Report.ofText?_pretty (r : Report) :
    Json.ofText? r.pretty = some r.toJson ∧ Json.ofText? (r.pretty ++ "\n") = some r.toJson := by
  have hspaces : ∀ c ∈ ['\n'], isSpace (some c) = true := by simp [isSpace]
  exact ⟨Json.ofText?_pretty r.writable_toJson,
    ofText?_pretty_append r.writable_toJson hspaces (numberEnds_cons (by decide) [])⟩

/-- A report in the form of JSON is read as the report, whatever stands in its texts and lists; and
as plain text, what has been read is what the report is as plain text. -/
theorem Report.ofJson?_rendered (r : Report) :
    (Json.ofText? r.pretty).bind Report.ofJson? = some r ∧
    (Json.ofText? (CommandLine.rendered .json r)).bind Report.ofJson? = some r ∧
    ((Json.ofText? (CommandLine.rendered .json r)).bind Report.ofJson?).map
      (CommandLine.rendered .text) = some (CommandLine.rendered .text r) := by
  have hpretty : (Json.ofText? r.pretty).bind Report.ofJson? = some r := by
    rw [r.ofText?_pretty.1, Option.bind_some, ofJson?_toJson]
  have hrendered : (Json.ofText? (CommandLine.rendered .json r)).bind Report.ofJson? = some r := by
    rw [CommandLine.rendered, r.ofText?_pretty.2, Option.bind_some, ofJson?_toJson]
  exact ⟨hpretty, hrendered, by rw [hrendered, Option.map_some]⟩

end TokenConformance
