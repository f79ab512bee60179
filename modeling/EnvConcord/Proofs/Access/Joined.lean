import EnvConcord.Proofs.Access.Merging
import EnvConcord.Proofs.Access.Sites
import EnvConcord.Proofs.Text.Lines

/-!
# Scans of joined texts

A scan goes line by line, and of a line's place it keeps nothing but the number.  So two
texts with a line break between them read what each of them reads, the second one that many
lines further down; only the name of a computed access moves with its place.
-/

namespace EnvConcord

/-- A usage some lines further down. -/
def Usage.movedDown (n : Nat) (usage : Usage) : Usage := { usage with line := usage.line + n }

namespace Access

/-! ## Moving occurrences -/

/-- An occurrence some lines further down; a computed access takes the name of its new
place. -/
def Occurrence.movedDown (n : Nat) (found : Occurrence) : Occurrence where
  name :=
    if found.isComputed then
      computedName found.usage.file ↑(found.usage.line + n) found.usage.column
    else found.name
  usage := found.usage.movedDown n

@[simp]
theorem Occurrence.isComputed_movedDown (n : Nat) (found : Occurrence) :
    (found.movedDown n).isComputed = found.isComputed := rfl

@[simp]
theorem Occurrence.usage_movedDown (n : Nat) (found : Occurrence) :
    (found.movedDown n).usage = found.usage.movedDown n := rfl

theorem Occurrence.name_movedDown_of_static {found : Occurrence}
    (static : found.isComputed = false) (n : Nat) : (found.movedDown n).name = found.name := by
  rw [movedDown, static]
  rfl

section Lines

variable {dialect : Dialect} (separates : SeparatesComputed dialect) (file : String)

include separates in
/-- A line further down has the same occurrences further down. -/
theorem inLine_movedDown (n line : Nat) (cs : List Char) :
    inLine dialect file (line + n) cs =
      (inLine dialect file line cs).map (Occurrence.movedDown n) := by
  rw [inLine_eq, inLine_eq, List.map_append, List.map_flatMap, List.map_flatMap]
  congr 1
  · apply List.flatMap_congr
    intro form _
    rw [List.map_map]
    rfl
  · apply List.flatMap_congr
    intro form mem
    have static : ∀ column content,
        (staticOccurrence form.kind file line column content).isComputed = false := by
      intro column content
      exact decide_eq_false (separates.static_kinds form mem)
    rw [List.map_map]
    apply List.map_congr_left
    intro found _
    rw [Function.comp_apply, Occurrence.movedDown, static]
    rfl

include separates in
theorem inLines_movedDown (n line : Nat) (lines : List (List Char)) :
    inLines dialect file (line + n) lines =
      (inLines dialect file line lines).map (Occurrence.movedDown n) := by
  induction lines generalizing line with
  | nil => rfl
  | cons cs rest ih =>
      rw [inLines, inLines, List.map_append, inLine_movedDown separates, Nat.add_right_comm, ih]

theorem inLines_append (dialect : Dialect) (line : Nat) (lines others : List (List Char)) :
    inLines dialect file line (lines ++ others) =
      inLines dialect file line lines ++ inLines dialect file (line + lines.length) others := by
  induction lines generalizing line with
  | nil => rfl
  | cons cs rest ih =>
      rw [List.cons_append, inLines, inLines, ih, List.append_assoc, List.length_cons,
        Nat.add_right_comm, Nat.add_assoc]

include separates in
/-- A text of two texts has the occurrences of the first and, further down, those of the
second. -/
theorem occurrences_joined (first second : String) :
    occurrences dialect file (first ++ "\n" ++ second) =
      occurrences dialect file first ++
        (occurrences dialect file second).map
          (Occurrence.movedDown (Text.lines first.toList).length) := by
  have lines_eq : Text.lines (first ++ "\n" ++ second).toList =
      Text.lines first.toList ++ Text.lines second.toList := by
    rw [← Text.lines_append_break]
    simp
  rw [occurrences, lines_eq, inLines_append, inLines_movedDown separates]
  rfl

end Lines

/-! ## Usages under names -/

/-- The usages that keys hold under a name, one key after the other. -/
def usagesUnder (keys : List CodeKey) (name : String) : List Usage :=
  (keys.filter fun key => key.name = name).flatMap CodeKey.usages

/-- The usages under a name that are static accesses. -/
def staticUsages (keys : List CodeKey) (name : String) : List Usage :=
  (usagesUnder keys name).filter fun usage => usage.kind ≠ .computed

/-- The computed accesses that keys hold, each with the name that it is recorded under. -/
def computedRecords (keys : List CodeKey) : List (String × Usage) :=
  (recorded keys).filter fun item => item.2.kind = .computed

/-- The computed accesses that keys hold. -/
def computedUsages (keys : List CodeKey) : List Usage :=
  (keys.flatMap CodeKey.usages).filter fun usage => usage.kind = .computed

/-- A usage with the name of a computed access at its line and its column. -/
def namedByPlace (file : String) (usage : Usage) : String × Usage :=
  (computedName file usage.line usage.column, usage)

theorem map_snd_recorded (keys : List CodeKey) :
    (recorded keys).map Prod.snd = keys.flatMap CodeKey.usages := by
  simp [recorded, List.map_flatMap, Function.comp_def]

theorem map_snd_computedRecords (keys : List CodeKey) :
    (computedRecords keys).map Prod.snd = computedUsages keys := by
  rw [computedRecords, computedUsages, ← map_snd_recorded, List.filter_map]
  rfl

theorem mergedKey_collect (found : List Occurrence) (name : String) :
    CodeKey.mergedKey (collect found) name = namedKey found name := by
  rw [collect_eq_map]
  apply CodeKey.mergedKey_map (grouped found).nodup (fun _ => rfl)
  intro absent
  change name ∉ (grouped found).keys at absent
  rw [grouped, Dict.mem_keys_group] at absent
  rw [namedKey, Dict.filter_keyOf_eq_nil Occurrence.name absent]
  rfl

/-- Under a name are the usages of its occurrences, in their order. -/
theorem usagesUnder_collect (found : List Occurrence) (name : String) :
    usagesUnder (collect found) name =
      (found.filter fun item => item.name = name).map Occurrence.usage :=
  congrArg CodeKey.usages (mergedKey_collect found name)

theorem staticUsages_collect (found : List Occurrence) (name : String) :
    staticUsages (collect found) name =
      (found.filter fun item => item.name = name && !item.isComputed).map Occurrence.usage := by
  rw [staticUsages, usagesUnder_collect, List.filter_map, List.filter_filter]
  congr 1
  apply List.filter_congr
  intro item _
  simp [Occurrence.isComputed, Bool.and_comm]

/-- Moving occurrences moves the static accesses of a name and leaves them under it. -/
theorem staticUsages_collect_movedDown (n : Nat) (found : List Occurrence) (name : String) :
    staticUsages (collect (found.map (Occurrence.movedDown n))) name =
      (staticUsages (collect found) name).map (Usage.movedDown n) := by
  rw [staticUsages_collect, staticUsages_collect, List.filter_map, List.map_map, List.map_map]
  congr 1
  apply List.filter_congr
  intro item _
  rw [Function.comp_apply, Occurrence.isComputed_movedDown]
  cases computed : item.isComputed with
  | true => simp
  | false => rw [Occurrence.name_movedDown_of_static computed]

section Scan

variable {dialect : Dialect} (separates : SeparatesComputed dialect) (file : String)

include separates in
/-- The computed accesses of a scan are recorded under the names of their places. -/
theorem computedRecords_scan_perm (text : String) :
    (computedRecords (scan dialect file text)).Perm
      (((occurrences dialect file text).filter Occurrence.isComputed).map fun item =>
        namedByPlace file item.usage) := by
  have all := (recorded_collect_perm (occurrences dialect file text)).filter
    fun item => item.2.kind = .computed
  rw [List.filter_map] at all
  refine all.trans (List.Perm.of_eq ?_)
  apply List.map_congr_left
  intro item mem
  obtain ⟨mem, computed⟩ := List.mem_filter.1 mem
  rcases (mem_occurrences_iff dialect file text item).1 mem with ⟨k, cs, i, -, -, here⟩
  obtain ⟨-, line_eq, column_eq⟩ := place_of_mem_occurrencesAt here
  rw [namedByPlace, name_eq_of_isComputed separates here computed, line_eq, column_eq]

include separates in
theorem computedUsages_scan_perm (text : String) :
    (computedUsages (scan dialect file text)).Perm
      (((occurrences dialect file text).filter Occurrence.isComputed).map Occurrence.usage) := by
  have all := (computedRecords_scan_perm separates file text).map Prod.snd
  rwa [map_snd_computedRecords, List.map_map] at all

end Scan

/-! ## Keys of a joined text -/

/-- Keys hold the usages of the keys of two texts, those of the second text some lines further
down: under each name the static accesses of the first text and then those of the second, and
each computed access once and under the name of its new place. -/
structure JoinsUsages (file : String) (n : Nat) (first second joined : List CodeKey) : Prop where
  statics : ∀ name, staticUsages joined name =
    staticUsages first name ++ (staticUsages second name).map (Usage.movedDown n)
  computed : (computedRecords joined).Perm
    ((computedUsages first ++ (computedUsages second).map (Usage.movedDown n)).map
      (namedByPlace file))
  once : (computedRecords joined).Nodup

/-- In a built-in dialect, a text of two texts with a line break between them reads what the
two texts read, the second one as many lines further down as the first one has. -/
theorem scan_joinsUsages {dialect : Dialect}
    (builtIn : dialect ∈ [Dialect.javascript, Dialect.python]) (file first second : String) :
    JoinsUsages file (Text.lines first.toList).length (scan dialect file first)
      (scan dialect file second) (scan dialect file (first ++ "\n" ++ second)) := by
  have separates := separatesForms_of_builtIn builtIn
  have joined := occurrences_joined separates.toSeparatesComputed file first second
  generalize (Text.lines first.toList).length = n at joined ⊢
  constructor
  · intro name
    rw [scan, joined, staticUsages_collect, List.filter_append, List.map_append,
      ← staticUsages_collect, ← staticUsages_collect, staticUsages_collect_movedDown]
    rfl
  · have records := computedRecords_scan_perm separates.toSeparatesComputed file
    have usages := computedUsages_scan_perm separates.toSeparatesComputed file
    have parts := (((usages first).append ((usages second).map (Usage.movedDown n))).map
      (namedByPlace file)).symm
    refine (records (first ++ "\n" ++ second)).trans (List.Perm.trans (List.Perm.of_eq ?_) parts)
    rw [joined, List.filter_append, List.filter_map]
    simp [Function.comp_def]
  · have sites_apart : (sites (scan dialect file (first ++ "\n" ++ second))).Nodup :=
      nodup_sites_scan separates
    have usages_apart := List.Nodup.of_map _ sites_apart
    rw [← map_snd_recorded] at usages_apart
    exact (List.Nodup.of_map _ usages_apart).filter _

/-- A text that reads a literal and a computed key. -/
def firstPart : String := "host = os.getenv('HOST')\nname = os.environ[key]"

/-- A text that reads the same literal key and another computed one. -/
def secondPart : String := "home = os.environ['HOST']\nlast = os.getenv(other)"

theorem scan_joinsUsages_parts :
    Dialect.python ∈ [Dialect.javascript, Dialect.python] ∧
      (Text.lines firstPart.toList).length = 2 ∧
      JoinsUsages "app.py" (Text.lines firstPart.toList).length (scan .python "app.py" firstPart)
        (scan .python "app.py" secondPart)
        (scan .python "app.py" (firstPart ++ "\n" ++ secondPart)) := by
  have builtIn : Dialect.python ∈ [Dialect.javascript, Dialect.python] := by decide
  exact ⟨builtIn, by decide, scan_joinsUsages builtIn "app.py" firstPart secondPart⟩

end Access

end EnvConcord
