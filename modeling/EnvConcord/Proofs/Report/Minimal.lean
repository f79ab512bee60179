import EnvConcord.Proofs.Document.Lines
import EnvConcord.Proofs.Reconcile.Exact
import EnvConcord.Proofs.Schema.Findings
import EnvConcord.Proofs.Text.Lines
import EnvConcord.Report.Schema

/-!
# Reading minimal reports

A line of a minimal report is read as a label, up to the first colon, and a key.  No label
holds a colon, so the lines give back every key under its label and in its order, whatever
the keys hold, and nothing else.
-/

namespace EnvConcord.Report

/-- The label and the key that a line names: what stands in front of the first colon, and what
stands behind the blank that follows it. -/
def naming? (line : List Char) : Option (String × String) :=
  match line.dropWhile (· != ':') with
  | ':' :: ' ' :: key => some (String.ofList (line.takeWhile (· != ':')), String.ofList key)
  | _ => none

/-- The lines of a minimal report, whose single word stands for none. -/
def reportedLines (text : String) : List (List Char) :=
  if text = "OK" then [] else Text.lines text.toList

/-- The keys that a minimal report names under a label. -/
def keysUnder (label text : String) : List String :=
  (((reportedLines text).filterMap naming?).filter fun entry => entry.1 == label).map Prod.snd

/-- The entries of labelled lists, list after list. -/
def entriesOf (lists : List (String × List String)) : List (String × String) :=
  lists.flatMap fun list => list.2.map fun key => (list.1, key)

/-- A text reports labelled lists: its lines are the entries of the lists, each list is found
under its label, and a single word says that all lists are empty. -/
structure Reports (lists : List (String × List String)) (text : String) : Prop where
  lines : (reportedLines text).map naming? = (entriesOf lists).map some
  recovered : ∀ list ∈ lists, keysUnder list.1 text = list.2
  ok_iff : text = "OK" ↔ ∀ list ∈ lists, list.2 = []

/-! ## Lines -/

theorem naming?_of_label {label : String} (plain : ':' ∉ label.toList) (key : String) :
    naming? (label ++ ": " ++ key).toList = some (label, key) := by
  have split : (label ++ ": " ++ key).toList = label.toList ++ ':' :: ' ' :: key.toList := by
    simp
  rw [naming?, split, Text.dropWhile_ne_append_cons plain, Text.takeWhile_ne_append_cons plain]
  simp

theorem naming?_ok : naming? "OK".toList = none := by decide

/-- A report of lines is its single word exactly if there are none. -/
theorem minimalText_eq_ok_iff {lines : List String} (single : ∀ line ∈ lines, Single line)
    (apart : "OK" ∉ lines) : minimalText lines = "OK" ↔ lines = [] := by
  constructor
  · intro says_ok
    by_contra nonempty
    rw [minimalText, if_neg (by simpa using nonempty)] at says_ok
    have lines_eq := Text.lines_toList_intercalate single nonempty
    rw [says_ok] at lines_eq
    have only : lines = ["OK"] := by
      apply List.map_injective_iff.2 fun _ _ => String.toList_inj.1
      rw [← lines_eq]
      decide
    exact apart (by simp [only])
  · rintro rfl
    rfl

theorem reportedLines_minimalText {lines : List String} (single : ∀ line ∈ lines, Single line)
    (apart : "OK" ∉ lines) : reportedLines (minimalText lines) = lines.map String.toList := by
  rw [reportedLines]
  split
  next says_ok =>
    rw [(minimalText_eq_ok_iff single apart).1 says_ok]
    rfl
  next other =>
    have nonempty : lines ≠ [] := fun empty => other ((minimalText_eq_ok_iff single apart).2 empty)
    rw [minimalText, if_neg (by simpa using nonempty)]
    exact Text.lines_toList_intercalate single nonempty

/-! ## Labelled lists -/

theorem labelled_eq_map (lists : List (String × List String)) :
    labelled lists = (entriesOf lists).map fun entry => entry.1 ++ ": " ++ entry.2 := by
  rw [labelled, entriesOf, List.map_flatMap]
  simp only [List.map_map]
  rfl

theorem mem_entriesOf_iff (lists : List (String × List String)) (entry : String × String) :
    entry ∈ entriesOf lists ↔ ∃ list ∈ lists, list.1 = entry.1 ∧ entry.2 ∈ list.2 := by
  simp only [entriesOf, List.mem_flatMap, List.mem_map, Prod.ext_iff]
  refine exists_congr fun list => and_congr_right fun _ => ?_
  constructor
  · rintro ⟨key, mem, label_eq, rfl⟩
    exact ⟨label_eq, mem⟩
  · rintro ⟨label_eq, mem⟩
    exact ⟨entry.2, mem, label_eq, rfl⟩

theorem length_entriesOf (lists : List (String × List String)) :
    (entriesOf lists).length = (lists.map fun list => list.2.length).sum := by
  simp [entriesOf, List.length_flatMap]

theorem entriesOf_eq_nil_iff (lists : List (String × List String)) :
    entriesOf lists = [] ↔ ∀ list ∈ lists, list.2 = [] := by
  simp [entriesOf]

/-- Of the entries, those with some labels are the entries of the lists with these labels. -/
theorem filter_entriesOf (labels : String → Bool) (lists : List (String × List String)) :
    ((entriesOf lists).filter fun entry => labels entry.1) =
      entriesOf (lists.filter fun list => labels list.1) := by
  induction lists with
  | nil => rfl
  | cons list rest ih =>
      have cons_eq (others : List (String × List String)) :
          entriesOf (list :: others) = list.2.map (fun key => (list.1, key)) ++ entriesOf others :=
        List.flatMap_cons
      rw [cons_eq, List.filter_append, ih]
      cases here : labels list.1 with
      | true => simp [here, cons_eq]
      | false => simp [here]

/-- Labels that a line tells from the keys: there are no two alike, and none holds a colon or a
line break. -/
structure AreLabels (labels : List String) : Prop where
  distinct : labels.Nodup
  plain : ∀ label ∈ labels, ':' ∉ label.toList
  single : ∀ label ∈ labels, Single label

section Labelled

variable {lists : List (String × List String)} (labels : AreLabels (lists.map Prod.fst))

include labels in
theorem naming?_of_mem_entriesOf {entry : String × String} (mem : entry ∈ entriesOf lists) :
    naming? (entry.1 ++ ": " ++ entry.2).toList = some entry := by
  obtain ⟨list, list_mem, label_eq, -⟩ := (mem_entriesOf_iff lists entry).1 mem
  exact naming?_of_label (labels.plain _ (List.mem_map.2 ⟨list, list_mem, label_eq⟩)) entry.2

include labels in
theorem ok_not_mem_labelled : "OK" ∉ labelled lists := by
  rw [labelled_eq_map, List.mem_map]
  rintro ⟨entry, mem, says_ok⟩
  have read := naming?_of_mem_entriesOf labels mem
  rw [says_ok, naming?_ok] at read
  contradiction

variable (single : ∀ list ∈ lists, ∀ key ∈ list.2, Single key)

include labels single

theorem single_labelled : ∀ line ∈ labelled lists, Single line := by
  rw [labelled_eq_map, List.forall_mem_map]
  intro entry mem
  obtain ⟨list, list_mem, label_eq, key_mem⟩ := (mem_entriesOf_iff lists entry).1 mem
  simp only [Single.append_iff]
  refine ⟨⟨labels.single _ ?_, by decide⟩, single list list_mem _ key_mem⟩
  exact List.mem_map.2 ⟨list, list_mem, label_eq⟩

theorem map_naming?_reportedLines :
    (reportedLines (minimalText (labelled lists))).map naming? = (entriesOf lists).map some := by
  rw [reportedLines_minimalText (single_labelled labels single) (ok_not_mem_labelled labels),
    labelled_eq_map, List.map_map, List.map_map]
  exact List.map_congr_left fun entry mem => naming?_of_mem_entriesOf labels mem

/-- Labelled lists are read back from their report. -/
theorem reports_minimalText : Reports lists (minimalText (labelled lists)) := by
  have lines := map_naming?_reportedLines labels single
  refine ⟨lines, ?_, ?_⟩
  · intro list mem
    have entries_eq : (reportedLines (minimalText (labelled lists))).filterMap naming? =
        entriesOf lists := by
      simpa [List.filterMap_map] using congrArg (List.filterMap id) lines
    rw [keysUnder, entries_eq, filter_entriesOf (· == list.1),
      Schema.filter_key_eq_singleton Prod.fst labels.distinct mem]
    simp [entriesOf]
  · rw [minimalText_eq_ok_iff (single_labelled labels single) (ok_not_mem_labelled labels),
      labelled_eq_map, List.map_eq_nil_iff, entriesOf_eq_nil_iff]

end Labelled

/-! ## Counting lines -/

/-- The label of a line. -/
def label? (line : List Char) : Option String := (naming? line).map Prod.fst

namespace Reports

variable {lists : List (String × List String)} {text : String} (reports : Reports lists text)

include reports

/-- There are as many lines with some labels as keys in the lists with these labels. -/
theorem countP_eq (labels : Option String → Bool) :
    (reportedLines text).countP (fun line => labels (label? line)) =
      ((lists.filter fun list => labels (some list.1)).map fun list => list.2.length).sum := by
  let ofEntry (entry : Option (String × String)) : Bool := labels (entry.map Prod.fst)
  calc (reportedLines text).countP (ofEntry ∘ naming?)
      = ((entriesOf lists).map some).countP ofEntry := by rw [← List.countP_map, reports.lines]
    _ = ((entriesOf lists).filter fun entry => labels (some entry.1)).length := by
        rw [List.countP_map, List.countP_eq_length_filter]
        rfl
    _ = _ := by rw [filter_entriesOf fun label => labels (some label), length_entriesOf]

theorem length_eq :
    (reportedLines text).length = (lists.map fun list => list.2.length).sum := by
  rw [← length_entriesOf, ← List.length_map naming?, reports.lines, List.length_map]

end Reports

/-! ## Comparisons -/

/-- The lists of a comparison with the labels of their lines. -/
def comparisonLists (found : Findings) : List (String × List String) :=
  [ ("missing", found.missing),
    ("unused", found.unused),
    ("empty", found.empty),
    ("duplicate", found.duplicates),
    ("uncertain", found.uncertain) ]

theorem reports_audit {found : Findings} {options : Options} (minimal : options.format = "minimal")
    (single : ∀ list ∈ comparisonLists found, ∀ key ∈ list.2, Single key) :
    Reports (comparisonLists found) (audit found options) := by
  have text_eq : audit found options = minimalText (labelled (comparisonLists found)) := by
    simp [audit, minimal, auditMinimal, minimalLabels, comparisonLists]
  rw [text_eq]
  refine reports_minimalText ⟨?_, ?_, ?_⟩ single
  · simp [comparisonLists]
  · simp [comparisonLists]
  · simp [comparisonLists, Single]

/-! ## Schema checks -/

/-- The lists of a schema check with the labels of their lines. -/
def checkLists (report : Schema.Report) : List (String × List String) :=
  [ ("missing", report.missing),
    ("invalid-type", report.invalidType.map Schema.Issue.key),
    ("invalid-format", report.invalidFormat.map Schema.Issue.key),
    ("invalid-enum", report.invalidEnum.map Schema.Issue.key),
    ("sensitive-default", report.sensitiveDefaults.map Schema.Issue.key),
    ("unused", report.unused) ]

theorem reports_schema {report : Schema.Report} {options : Options}
    (minimal : options.format = "minimal")
    (single : ∀ list ∈ checkLists report, ∀ key ∈ list.2, Single key) :
    Reports (checkLists report) (schema report options) := by
  have text_eq : schema report options = minimalText (labelled (checkLists report)) := by
    simp [schema, minimal, schemaMinimal, checkLists]
  rw [text_eq]
  refine reports_minimalText ⟨?_, ?_, ?_⟩ single
  · simp [checkLists]
  · simp [checkLists]
  · simp [checkLists, Single]

theorem totalIssues_of_validate {env : Schema.Variables} {known : Schema} {report : Schema.Report}
    (returned : Schema.validate known env = .ok report) :
    report.summary.totalIssues = ((checkLists report).map fun list => list.2.length).sum := by
  obtain ⟨checked, -, rfl⟩ := Schema.exists_verdicts_of_validate returned
  simp only [checkLists, Schema.collect, List.map_cons, List.map_nil, List.sum_cons, List.sum_nil,
    List.length_map]
  omega

/-- A check against a schema has no findings beyond the lists that its report names. -/
theorem others_of_validate {env : Schema.Variables} {known : Schema} {report : Schema.Report}
    (returned : Schema.validate known env = .ok report) :
    report.empty = [] ∧ report.duplicates = [] ∧ report.uncertain = [] ∧
      report.schemaErrors = [] := by
  obtain ⟨checked, -, rfl⟩ := Schema.exists_verdicts_of_validate returned
  exact ⟨rfl, rfl, rfl, rfl⟩

/-! ## Minimal reports -/

/-- Minimal reports neither drop nor invent anything.  The lists of a comparison are read back
from its report, and without the uncertain texts the lines are as many as the issues; the report
of a schema check has a line for each issue, in the lists of their kinds. -/
theorem minimal_readBack {options : Options} (minimal : options.format = "minimal") :
    (∀ found : Findings, (∀ list ∈ comparisonLists found, ∀ key ∈ list.2, Single key) →
        Reports (comparisonLists found) (audit found options)) ∧
      (∀ keys entries settings, let found := reconcile keys entries settings
        (∀ list ∈ comparisonLists found, ∀ key ∈ list.2, Single key) →
          (reportedLines (audit found options)).countP
            (fun line => label? line != some "uncertain") = found.summary.totalIssues) ∧
      ∀ known env report, Schema.validate known env = .ok report →
        (∀ list ∈ checkLists report, ∀ key ∈ list.2, Single key) →
          Reports (checkLists report) (schema report options) ∧
            (reportedLines (schema report options)).length = report.summary.totalIssues ∧
            (schema report options = "OK" ↔ report.summary.totalIssues = 0) ∧
            report.empty = [] ∧ report.duplicates = [] ∧ report.uncertain = [] ∧
            report.schemaErrors = [] := by
  refine ⟨fun found single => reports_audit minimal single, ?_, ?_⟩
  · intro keys entries settings found single
    have counted := (reports_audit minimal single).countP_eq (· != some "uncertain")
    have counts : ((comparisonLists found).filter fun list => some list.1 != some "uncertain").map
          (fun list => list.2.length) =
        [found.missing.length, found.unused.length, found.empty.length, 0] := rfl
    have total : found.summary.totalIssues =
        found.missing.length + found.unused.length + found.empty.length :=
      Reconcile.totalIssues_eq entries settings keys
    rw [counted, counts, total]
    simp only [List.sum_cons, List.sum_nil]
    omega
  · intro known env report returned single
    have reports := reports_schema minimal single
    have total := totalIssues_of_validate returned
    refine ⟨reports, ?_, ?_, others_of_validate returned⟩
    · rw [reports.length_eq, total]
    · rw [reports.ok_iff, total, Nat.cast_eq_zero, List.sum_eq_zero_iff, List.forall_mem_map]
      simp only [List.length_eq_zero_iff]

/-- Findings whose texts look like lines of a report. -/
def deceptiveFindings : Findings where
  missing := ["unused: A", "OK"]
  uncertain := ["env[\"missing: B\"]"]

theorem minimal_readBack_deceptiveFindings :
    let options : Options := { format := "minimal" }
    keysUnder "missing" (audit deceptiveFindings options) = ["unused: A", "OK"] ∧
      (reportedLines
          (audit (reconcile Reconcile.serverKeys Reconcile.serverEntries {}) options)).countP
        (fun line => label? line != some "uncertain") = (3 : Int) ∧
      ∃ report, Schema.validate Schema.serverSchema Schema.serverVariables = .ok report ∧
        (reportedLines (schema report options)).length = report.summary.totalIssues := by
  intro options
  obtain ⟨audited, compared, checked⟩ := minimal_readBack (rfl : options.format = "minimal")
  refine ⟨?_, ?_, ?_⟩
  · exact (audited deceptiveFindings (by decide +kernel)).recovered
      ("missing", deceptiveFindings.missing) (by simp [comparisonLists])
  · exact compared Reconcile.serverKeys Reconcile.serverEntries {} (by decide +kernel)
  · have single : (Schema.validate Schema.serverSchema Schema.serverVariables).map
        (fun report => decide (∀ list ∈ checkLists report, ∀ key ∈ list.2, Single key)) =
          .ok true := by decide +kernel
    cases returned : Schema.validate Schema.serverSchema Schema.serverVariables with
    | error cause => simp [returned, Except.map] at single
    | ok report =>
        rw [returned] at single
        exact ⟨report, rfl, (checked _ _ report returned (by simpa [Except.map] using single)).2.1⟩

end EnvConcord.Report
