import TrialSeries.Encoding.Configuration
import TrialSeries.Proofs.JsonReading

/-!
# Configurations in data files

A configuration is read back from its data as it was. All that it says is written: a separator even
where it is the default of its kind of rule, and the rules even where there are none, so that no
default takes the place of anything. What is not written is absent, and is read back as absent.
-/

namespace TrialSeries

open Data

/-! ## Storable configurations -/

/-- The index of a field has 64 bits; its separator may be any character. -/
def Extraction.IsStorable : Extraction → Prop
  | .field index _ => index < UInt64.size
  | _ => True

structure RuleTable.IsStorable (table : RuleTable) : Prop where
  rules : ∀ rule ∈ table.rules, rule.extraction.IsStorable
  fallback : ∀ extraction, table.fallback = some extraction → extraction.IsStorable

/-- All numbers of a configuration have 64 bits; its texts may be any. -/
structure Configuration.IsStorable (configuration : Configuration) : Prop where
  table : configuration.table.IsStorable
  precision : configuration.report.precision < UInt64.size

/-! ## Data of values -/

theorem character?_singleton (char : Char) :
    character? (.text (String.singleton char)) = some char := by
  simp [character?]

theorem list?_map {α : Type} {write : α → Data} {read : Data → Option α} {values : List α}
    (h : ∀ value ∈ values, read (write value) = some value) :
    list? read (.sequence (values.map write)) = some values := by
  rw [list?]
  induction values with
  | nil => rfl
  | cons value values ih =>
    obtain ⟨hvalue, hvalues⟩ := List.forall_mem_cons.1 h
    rw [List.map_cons, List.mapM_cons, hvalue, ih hvalues]
    rfl

/-- What a record says about a field that is left out if there is no value for it. -/
def slotOf {α : Type} (write : α → Data) : Option α → Slot
  | none => .omitted
  | some value => .given (write value)

theorem orDefault_given {α : Type} (read : Data → Option α) (data : Data) (default : α) :
    (Slot.given data).orDefault read default = read data :=
  rfl

theorem orDefault_slotOf {α : Type} {write : α → Data} {read : Data → Option α} {value : Option α}
    (hnull : ∀ value, write value ≠ .null) (h : ∀ found ∈ value, read (write found) = some found) :
    (slotOf write value).orDefault (optional? read) none = some value := by
  cases value with
  | none => rfl
  | some value =>
    rw [slotOf, orDefault_given, optional?, h value rfl]
    · rfl
    · exact hnull value

theorem orDefault_slotOf_text (content : Option String) :
    (slotOf .text content).orDefault (optional? text?) none = some content :=
  orDefault_slotOf nofun fun _ _ ↦ rfl

theorem slots?_record (format : DataFormat) (names : List String) (fields : List (String × Data)) :
    format.slots? names (.record fields) = slots? names (.record fields) := by
  cases format <;> rfl

/-! ## Data of rules -/

theorem Alignment.ofData?_toData (format : DataFormat) (alignment : Alignment) :
    Alignment.ofData? format alignment.toData = some alignment := by
  cases alignment <;> rfl

/-- The kind of a rule says which parts it has, and all of them are written. -/
theorem Extraction.ofData?_toData {extraction : Extraction} (h : extraction.IsStorable) :
    Extraction.ofData? extraction.toData = some extraction := by
  cases extraction with
  | field index separator =>
    have hkind {data : Data} (hindex : natural? data = some index) :
        ofKind? "field"
            (.record [("index", data), ("separator", .text (String.singleton separator))]) =
          some (.field index separator) := by
      simp [ofKind?, slots?, valuesOf, slotOfValues, Slot.required, orDefault_given, hindex,
        character?_singleton]
    exact hkind (natural?_integer h)
  | whole => rfl
  | vector separator =>
    have hkind : ofKind? "vector" (.record [("separator", .text (String.singleton separator))]) =
        some (.vector separator) := by
      simp [ofKind?, slots?, valuesOf, slotOfValues, orDefault_given, character?_singleton]
    exact hkind

theorem Extraction.toData_ne_null (extraction : Extraction) : extraction.toData ≠ .null := by
  cases extraction <;> nofun

theorem TrialRule.ofData?_toData (format : DataFormat) {rule : TrialRule}
    (h : rule.extraction.IsStorable) : TrialRule.ofData? format rule.toData = some rule := by
  obtain ⟨trial, fragment, extraction⟩ := rule
  have hslots : format.slots? ["trial", "run_contains", "extract"]
      (TrialRule.toData ⟨trial, fragment, extraction⟩) =
      some [.given (.text trial), slotOf .text fragment, .given extraction.toData] := by
    cases fragment <;>
      simp [TrialRule.toData, fieldIfPresent, slots?_record, slots?, valuesOf, slotOfValues, slotOf]
  simp only [TrialRule.ofData?, hslots, Option.bind_eq_bind, Option.bind_some, Slot.required, text?,
    orDefault_slotOf_text, Extraction.ofData?_toData h]
  rfl

/-- Rules are written even if there are none. -/
theorem RuleTable.ofData?_toData (format : DataFormat) {table : RuleTable} (h : table.IsStorable) :
    RuleTable.ofData? format table.toData = some table := by
  obtain ⟨rules, fallback⟩ := table
  have hslots : format.slots? ["rules", "fallback"] (RuleTable.toData ⟨rules, fallback⟩) =
      some [.given (.sequence (rules.map TrialRule.toData)),
        slotOf Extraction.toData fallback] := by
    cases fallback <;>
      simp [RuleTable.toData, fieldIfPresent, slots?_record, slots?, valuesOf, slotOfValues, slotOf]
  have hrules : list? (TrialRule.ofData? format) (.sequence (rules.map TrialRule.toData)) =
      some rules :=
    list?_map fun rule hrule ↦ TrialRule.ofData?_toData format (h.rules rule hrule)
  have hfallback : (slotOf Extraction.toData fallback).orDefault (optional? Extraction.ofData?)
      none = some fallback :=
    orDefault_slotOf Extraction.toData_ne_null fun extraction hextraction ↦
      Extraction.ofData?_toData (h.fallback extraction hextraction)
  simp only [RuleTable.ofData?, hslots, Option.bind_eq_bind, Option.bind_some, orDefault_given,
    hrules, hfallback]
  rfl

/-! ## Data of configurations -/

theorem ReportOptions.ofData?_toData (format : DataFormat) {options : ReportOptions}
    (h : options.precision < UInt64.size) :
    ReportOptions.ofData? format options.toData = some options := by
  have hrecord {data : Data} (hprecision : natural? data = some options.precision) :
      ReportOptions.ofData? format
          (.record [("precision", data), ("include_failed", .boolean options.includeFailed)]) =
        some options := by
    simp [ReportOptions.ofData?, slots?_record, slots?, valuesOf, slotOfValues, orDefault_given,
      hprecision, boolean?]
  exact hrecord (natural?_integer h)

namespace Configuration

theorem generalOfData?_record (format : DataFormat) (output : Option String) (verbose : Bool) :
    generalOfData? format
        (.record (fieldIfPresent "output" .text output ++ [("verbose", .boolean verbose)])) =
      some (output, verbose) := by
  have hslots : format.slots? ["output", "verbose"]
      (.record (fieldIfPresent "output" .text output ++ [("verbose", .boolean verbose)])) =
      some [slotOf .text output, .given (.boolean verbose)] := by
    cases output <;> simp [fieldIfPresent, slots?_record, slots?, valuesOf, slotOfValues, slotOf]
  simp only [generalOfData?, hslots, Option.bind_eq_bind, Option.bind_some, orDefault_slotOf_text,
    orDefault_given, boolean?]
  rfl

theorem alignmentOfData?_record (format : DataFormat) (alignment : Alignment) :
    alignmentOfData? format (.record [("vector_alignment", alignment.toData)]) =
      some alignment := by
  simp [alignmentOfData?, slots?_record, slots?, valuesOf, slotOfValues, orDefault_given,
    Alignment.ofData?_toData]

/-- Each of the four sections is read back as it was. -/
theorem ofData?_toData (format : DataFormat) {configuration : Configuration}
    (h : configuration.IsStorable) : ofData? format configuration.toData = some configuration := by
  have hslots (general extraction aggregation report : Data) :
      slots? ["general", "extraction", "aggregation", "report"]
          (.record [("general", general), ("extraction", extraction),
            ("aggregation", aggregation), ("report", report)]) =
        some [.given general, .given extraction, .given aggregation, .given report] := by
    simp [slots?, valuesOf, slotOfValues]
  simp only [toData, ofData?, slots?_record, hslots, Option.bind_eq_bind, Option.bind_some,
    orDefault_given, generalOfData?_record, alignmentOfData?_record,
    RuleTable.ofData?_toData format h.table, ReportOptions.ofData?_toData format h.precision]
  rfl

end Configuration

/-! ## Texts of configurations -/

/-- Data that is read back as it is where there is room for so many sequences and records in one
another. -/
structure Json.IsKept (room : Nat) (data : Data) : Prop where
  readable : IsReadable room data
  asRead : data.asRead = data

namespace Json.IsKept

theorem text {room : Nat} (content : String) : IsKept room (.text content) :=
  ⟨.text content, rfl⟩

theorem boolean {room : Nat} (value : Bool) : IsKept room (.boolean value) :=
  ⟨.boolean value, rfl⟩

theorem integer {room value : Nat} (h : value < UInt64.size) : IsKept room (.integer value) :=
  ⟨.integer h, rfl⟩

theorem sequence {room : Nat} {items : List Data} (h : ∀ item ∈ items, IsKept room item) :
    IsKept (room + 1) (.sequence items) where
  readable := .sequence fun item hitem ↦ (h item hitem).readable
  asRead := by
    have hitems : items.map Data.asRead = items.map id :=
      List.map_congr_left fun item hitem ↦ (h item hitem).asRead
    rw [Data.asRead, itemsAsRead_eq, hitems, List.map_id]

theorem record {room : Nat} {fields : List (String × Data)}
    (h : ∀ field ∈ fields, IsKept room field.2) : IsKept (room + 1) (.record fields) where
  readable := .record fun field hfield ↦ (h field hfield).readable
  asRead := by
    have hfields : fieldsAsRead fields = fields.map id := by
      rw [fieldsAsRead_eq]
      exact List.map_congr_left fun field hfield ↦ Prod.ext rfl (h field hfield).asRead
    rw [Data.asRead, hfields, List.map_id]

theorem optional {α : Type} {room : Nat} {write : α → Data} {value : Option α}
    (h : ∀ found ∈ value, IsKept room (write found)) (name : String) :
    ∀ field ∈ fieldIfPresent name write value, IsKept room field.2 := by
  cases value with
  | none => nofun
  | some value => exact List.forall_mem_singleton.2 (h value rfl)

end Json.IsKept

open Json

theorem isKept_extraction {extraction : Extraction} (h : extraction.IsStorable) (room : Nat) :
    IsKept (room + 1) extraction.toData := by
  cases extraction with
  | field index separator =>
    apply IsKept.record
    simp only [List.forall_mem_cons]
    exact ⟨.text _, .integer h, .text _, nofun⟩
  | whole => exact .record (List.forall_mem_singleton.2 (.text _))
  | vector separator =>
    apply IsKept.record
    simp only [List.forall_mem_cons]
    exact ⟨.text _, .text _, nofun⟩

theorem isKept_rule {rule : TrialRule} (h : rule.extraction.IsStorable) (room : Nat) :
    IsKept (room + 2) rule.toData := by
  apply IsKept.record
  simp only [List.forall_mem_append, List.forall_mem_singleton]
  exact ⟨⟨.text _, .optional (fun _ _ ↦ .text _) _⟩, isKept_extraction h room⟩

theorem isKept_table {table : RuleTable} (h : table.IsStorable) (room : Nat) :
    IsKept (room + 4) table.toData := by
  apply IsKept.record
  simp only [List.forall_mem_append, List.forall_mem_singleton]
  exact ⟨.sequence (List.forall_mem_map.2 fun rule hrule ↦ isKept_rule (h.rules rule hrule) room),
    .optional (fun extraction hextraction ↦
      isKept_extraction (h.fallback extraction hextraction) (room + 2)) _⟩

theorem isKept_configuration {configuration : Configuration} (h : configuration.IsStorable)
    (room : Nat) : IsKept (room + 5) configuration.toData := by
  apply IsKept.record
  simp only [List.forall_mem_cons]
  refine ⟨.record ?_, isKept_table h.table room, .record ?_, .record ?_, nofun⟩
  · simp only [List.forall_mem_append, List.forall_mem_singleton]
    exact ⟨.optional (fun _ _ ↦ .text _) _, .boolean _⟩
  · exact List.forall_mem_singleton.2 (.text _)
  · simp only [List.forall_mem_cons]
    exact ⟨.integer h.precision, .boolean _, nofun⟩

namespace Configuration

/-- The configuration that a JSON text holds. -/
def ofJson? (text : String) : Option Configuration := (Json.read text).bind (ofData? .json)

/-- A configuration is read back as it was from its data and from its compact and its indented
JSON. -/
theorem ofJson?_written {configuration : Configuration} (h : configuration.IsStorable) :
    ofData? .json configuration.toData = some configuration ∧
      ∀ write ∈ [Json.compact, Json.indented],
        ofJson? (write configuration.toData) = some configuration := by
  have hdata := ofData?_toData .json h
  have hkept := isKept_configuration h 122
  have htext (text : String) (hread : Json.read text = some configuration.toData.asRead) :
      ofJson? text = some configuration := by
    rw [ofJson?, hread, hkept.asRead, Option.bind_some, hdata]
  obtain ⟨hcompact, hindented⟩ := read_of_isReadable hkept.readable
  simp only [List.forall_mem_cons]
  exact ⟨hdata, htext _ hcompact, htext _ hindented, List.forall_mem_nil _⟩

/-- No rules at all. -/
def withoutRules : Configuration := ⟨none, false, ⟨[], none⟩, .reject, ⟨0, false⟩⟩

/-- Separators that have to be escaped, the default of the other kind of rule, and the largest
index. -/
def withEscapes : Configuration where
  output := some "a \"b\"\n"
  verbose := true
  table :=
    { rules :=
        [⟨"T\\", some "", .field 18446744073709551615 '\"'⟩, ⟨"", none, .field 0 ','⟩,
          ⟨"é", some "\t", .vector '_'⟩, ⟨"T", none, .vector '\x00'⟩, ⟨"T", none, .vector '√'⟩]
      fallback := some (.field 1 '\\') }
  alignment := .truncate
  report := ⟨17, true⟩

theorem ofJson?_written_withEscapes :
    withoutRules.IsStorable ∧ withEscapes.IsStorable ∧
      ofJson? (Json.compact withoutRules.toData) = some withoutRules ∧
      ofJson? (Json.indented withEscapes.toData) = some withEscapes := by
  have hwithout : withoutRules.IsStorable := ⟨⟨nofun, nofun⟩, by decide⟩
  have hwith : withEscapes.IsStorable := by
    refine ⟨⟨?_, ?_⟩, by decide⟩
    · simp only [withEscapes, List.forall_mem_cons]
      exact ⟨(by decide : 18446744073709551615 < UInt64.size), (by decide : 0 < UInt64.size),
        trivial, trivial, trivial, nofun⟩
    · rintro _ ⟨⟩
      exact (by decide : 1 < UInt64.size)
  exact ⟨hwithout, hwith, (ofJson?_written hwithout).2 _ (by simp),
    (ofJson?_written hwith).2 _ (by simp)⟩

end Configuration

end TrialSeries
