import TrialSeries.Encoding.Runs
import TrialSeries.Proofs.JsonReading
import TrialSeries.Proofs.MapLookup

/-!
# Runs in data files

Results of runs are read back from their JSON as they were exactly if all their numbers are finite.
A number that is not finite has become null, which no number is read from, so that then none of the
results is read back.
-/

namespace TrialSeries

open Data

/-! ## Finite results -/

def Setting.isFinite : Setting → Bool
  | number value => value.isFinite
  | label _ => true

def Statistics.isFinite (statistics : Statistics) : Bool :=
  statistics.mean.all Binary64.isFinite && statistics.deviation.all Binary64.isFinite

def Series.isFinite (series : Series) : Bool :=
  series.settings.all Setting.isFinite && series.metrics.values.all Statistics.isFinite

/-- All numbers of a result are finite; the result of a failed run has none. -/
def RunResult.isFinite (result : RunResult) : Bool := result.series.all Series.isFinite

/-! ## Storable results -/

/-- The texts of the finite numbers are read back, and the counts have 64 bits. -/
structure Statistics.IsStorable (statistics : Statistics) : Prop where
  mean : ∀ value ∈ statistics.mean, value.isFinite = true → Json.ReadsBack value
  deviation : ∀ value ∈ statistics.deviation, value.isFinite = true → Json.ReadsBack value
  count : ∀ count ∈ statistics.count, count < UInt64.size

structure Series.IsStorable (series : Series) : Prop where
  settings (value : Binary64) :
    .number value ∈ series.settings → value.isFinite = true → Json.ReadsBack value
  blocks : ∀ count ∈ series.blocks, count < UInt64.size
  metrics : ∀ statistics ∈ series.metrics.values, statistics.IsStorable
  truncated : series.truncated < UInt64.size

/-- The series of a result, if there is one, is storable; its texts may be any. -/
def RunResult.IsStorable (result : RunResult) : Prop :=
  ∀ series, result.series = some series → series.IsStorable

/-! ## Values as data -/

/-- A value is read back from its data exactly if it passes a test. -/
def IsRecovered {α : Type} (write : α → Data) (read : Data → Option α) (test : α → Bool)
    (value : α) : Prop :=
  read (write value).asRead = bif test value then some value else none

section Values

variable {α : Type} {write : α → Data} {read : Data → Option α} {test : α → Bool}

theorem isRecovered_real (value : Binary64) :
    IsRecovered Binary64.toData real? Binary64.isFinite value := by
  unfold IsRecovered Binary64.toData
  cases hfinite : value.isFinite with
  | true => simp [asRead, hfinite, real?]
  | false => simp [asRead, hfinite, real?]

theorem isRecovered_natural {n : Nat} (h : n < UInt64.size) :
    IsRecovered (fun n : Nat ↦ .integer n) natural? (fun _ ↦ true) n :=
  natural?_integer h

theorem mapM_map_asRead {values : List α}
    (h : ∀ value ∈ values, IsRecovered write read test value) :
    ((values.map write).map asRead).mapM read =
      bif values.all test then some values else none := by
  induction values with
  | nil => rfl
  | cons value values ih =>
    obtain ⟨hvalue, hvalues⟩ := List.forall_mem_cons.1 h
    rw [List.map_cons, List.map_cons, List.mapM_cons, hvalue, ih hvalues, List.all_cons]
    cases test value <;> cases values.all test <;> rfl

theorem isRecovered_list {values : List α}
    (h : ∀ value ∈ values, IsRecovered write read test value) :
    IsRecovered (fun values ↦ .sequence (values.map write)) (list? read) (·.all test) values := by
  unfold IsRecovered
  rw [asRead, itemsAsRead_eq, list?, mapM_map_asRead h]

theorem naturals_asRead {counts : List Nat} (h : ∀ count ∈ counts, count < UInt64.size) :
    list? natural? (Data.sequence (counts.map fun (n : Nat) ↦ .integer n)).asRead =
      some counts := by
  have hcounts := isRecovered_list fun n hn ↦ isRecovered_natural (h n hn)
  have hall : (counts.all fun _ ↦ true) = true := by simp
  simpa only [IsRecovered, hall, cond_true] using hcounts

theorem mapM_map_fieldAsRead {entries : List (String × α)}
    (h : ∀ entry ∈ entries, IsRecovered write read test entry.2) :
    ((entries.map fun (name, value) ↦ (name, write value)).map
        fun (name, value) ↦ (name, value.asRead)).mapM
        (fun (field : String × Data) ↦ (read field.2).map (field.1, ·)) =
      bif entries.all fun entry ↦ test entry.2 then some entries else none := by
  induction entries with
  | nil => rfl
  | cons entry entries ih =>
    obtain ⟨hentry, hentries⟩ := List.forall_mem_cons.1 h
    rw [List.map_cons, List.map_cons, List.mapM_cons, hentry, ih hentries, List.all_cons]
    cases test entry.2 <;> cases entries.all fun entry ↦ test entry.2 <;> rfl

theorem isRecovered_map {map : SortedMap String α}
    (h : ∀ value ∈ map.values, IsRecovered write read test value) :
    IsRecovered (SortedMap.toData write) (SortedMap.ofData? read) (·.values.all test) map := by
  have hentries : ∀ entry ∈ map.entries, IsRecovered write read test entry.2 := fun entry hentry ↦
    h entry.2 (List.mem_map_of_mem hentry)
  unfold IsRecovered SortedMap.toData
  rw [asRead, fieldsAsRead_eq, SortedMap.ofData?, mapM_map_fieldAsRead hentries]
  simp only [SortedMap.values, List.all_map, Function.comp_def]
  cases map.entries.all fun entry ↦ test entry.2 with
  | true => simp [SortedMap.ofList_entries]
  | false => rfl

end Values

/-! ## Structures as data -/

theorem isRecovered_setting (setting : Setting) :
    IsRecovered Setting.toData Setting.ofData? Setting.isFinite setting := by
  unfold IsRecovered
  cases setting with
  | number value =>
    cases hfinite : value.isFinite with
    | true => simp [Setting.toData, Binary64.toData, asRead, hfinite, Setting.ofData?, real?,
        Setting.isFinite]
    | false => simp [Setting.toData, Binary64.toData, asRead, hfinite, Setting.ofData?, real?,
        Setting.isFinite]
  | label content => rfl

theorem isRecovered_statistics {statistics : Statistics} (h : statistics.IsStorable) :
    IsRecovered Statistics.toData Statistics.ofData? Statistics.isFinite statistics := by
  have hnumbers (values : List Binary64) := isRecovered_list fun value (_ : value ∈ values) ↦
    isRecovered_real value
  have hcount := naturals_asRead h.count
  unfold IsRecovered at *
  have hslots (mean deviation count : Data) :
      slots? ["mean", "stddev", "count"]
          (.record [("mean", mean), ("stddev", deviation), ("count", count)]) =
        some [.given mean, .given deviation, .given count] := by
    simp [slots?, Data.valuesOf, slotOfValues]
  rw [Statistics.toData, asRead, Statistics.ofData?]
  simp only [fieldsAsRead, hslots, Option.bind_eq_bind, Option.bind_some, Slot.required,
    Slot.orDefault, hnumbers, hcount]
  rw [Statistics.isFinite]
  cases statistics.mean.all Binary64.isFinite <;>
    cases statistics.deviation.all Binary64.isFinite <;> simp

theorem isRecovered_series {series : Series} (h : series.IsStorable) :
    IsRecovered Series.toData Series.ofData? Series.isFinite series := by
  have hsettings := isRecovered_list fun setting (_ : setting ∈ series.settings) ↦
    isRecovered_setting setting
  have hblocks := naturals_asRead h.blocks
  have hmetrics := isRecovered_map fun statistics hstatistics ↦
    isRecovered_statistics (h.metrics statistics hstatistics)
  have htruncated := isRecovered_natural h.truncated
  unfold IsRecovered at *
  have hslots (settings blocks metrics truncated : Data) :
      slots? ["x", "blocks", "metrics", "truncated"]
          (.record [("x", settings), ("blocks", blocks), ("metrics", metrics),
            ("truncated", truncated)]) =
        some [.given settings, .given blocks, .given metrics, .given truncated] := by
    simp [slots?, Data.valuesOf, slotOfValues]
  rw [Series.toData, asRead, Series.ofData?]
  simp only [fieldsAsRead, hslots, Option.bind_eq_bind, Option.bind_some, Slot.required,
    Slot.orDefault, hsettings, hblocks, hmetrics, htruncated]
  rw [Series.isFinite]
  cases series.settings.all Setting.isFinite <;>
    cases series.metrics.values.all Statistics.isFinite <;> simp

theorem isRecovered_result {result : RunResult} (h : result.IsStorable) :
    IsRecovered RunResult.toData RunResult.ofData? RunResult.isFinite result := by
  obtain ⟨trial, run, path, series, error⟩ := result
  have hslots : slots? ["trial", "run", "path", "series", "error"]
      (RunResult.toData ⟨trial, run, path, series, error⟩).asRead =
      some [.given (.text trial), .given (.text run), .given (.text path),
        series.elim .omitted fun series ↦ .given series.toData.asRead,
        error.elim .omitted fun error ↦ .given (.text error)] := by
    cases series <;> cases error <;>
      simp [RunResult.toData, fieldIfPresent, asRead, fieldsAsRead, slots?, Data.valuesOf,
        slotOfValues]
  have herror : (error.elim Slot.omitted fun error ↦ .given (.text error)).orOmitted text? =
      some error := by
    cases error <;> rfl
  have hseries : (series.elim Slot.omitted fun series ↦
      .given series.toData.asRead).orOmitted Series.ofData? =
        bif series.all Series.isFinite then some series else none := by
    cases series with
    | none => rfl
    | some series =>
      have hrecovered := isRecovered_series (h series rfl)
      have hrecord : ∃ fields, series.toData.asRead = .record fields := ⟨_, rfl⟩
      obtain ⟨fields, hfields⟩ := hrecord
      unfold IsRecovered at hrecovered
      rw [Option.elim_some, Slot.orOmitted, hfields, optional?, ← hfields, hrecovered,
        Option.all_some]
      · cases series.isFinite <;> rfl
      · intro hnull
        cases hnull
  unfold IsRecovered
  rw [RunResult.ofData?, hslots]
  simp only [Option.bind_eq_bind, Option.bind_some, Slot.required, text?, herror, hseries]
  rw [RunResult.isFinite]
  cases series.all Series.isFinite <;> rfl

/-! ## Readable data -/

open Json

theorem isReadable_numbers {values : List Binary64}
    (h : ∀ value ∈ values, value.isFinite = true → ReadsBack value) (room : Nat) :
    IsReadable (room + 1) (.sequence (values.map Binary64.toData)) :=
  .sequence (List.forall_mem_map.2 fun value hvalue ↦ .real (h value hvalue))

theorem isReadable_counts {counts : List Nat} (h : ∀ count ∈ counts, count < UInt64.size)
    (room : Nat) :
    IsReadable (room + 1) (.sequence (counts.map fun (n : Nat) ↦ .integer n)) :=
  .sequence (List.forall_mem_map.2 fun count hcount ↦ .integer (h count hcount))

theorem isReadable_statistics {statistics : Statistics} (h : statistics.IsStorable) (room : Nat) :
    IsReadable (room + 2) statistics.toData := by
  apply IsReadable.record
  simp only [List.forall_mem_cons]
  exact ⟨isReadable_numbers h.mean room, isReadable_numbers h.deviation room,
    isReadable_counts h.count room, nofun⟩

theorem isReadable_series {series : Series} (h : series.IsStorable) (room : Nat) :
    IsReadable (room + 4) series.toData := by
  have hsettings : ∀ setting ∈ series.settings, IsReadable (room + 2) setting.toData := by
    intro setting hsetting
    cases setting with
    | number value => exact .real (h.settings value hsetting)
    | label content => exact .text content
  have hmetrics : ∀ entry ∈ series.metrics.entries, IsReadable (room + 2) entry.2.toData := by
    intro entry hentry
    exact isReadable_statistics (h.metrics entry.2 (List.mem_map_of_mem hentry)) room
  apply IsReadable.record
  simp only [List.forall_mem_cons]
  exact ⟨.sequence (List.forall_mem_map.2 hsettings), isReadable_counts h.blocks (room + 2),
    .record (List.forall_mem_map.2 hmetrics), .integer h.truncated, nofun⟩

theorem isReadable_result {result : RunResult} (h : result.IsStorable) (room : Nat) :
    IsReadable (room + 5) result.toData := by
  obtain ⟨trial, run, path, series, error⟩ := result
  apply IsReadable.record
  simp only [List.forall_mem_append, List.forall_mem_cons]
  refine ⟨⟨⟨.text trial, .text run, .text path, nofun⟩, ?_⟩, ?_⟩
  · cases series with
    | none => nofun
    | some series =>
      simp only [fieldIfPresent, List.forall_mem_singleton]
      exact isReadable_series (h series rfl) room
  · cases error with
    | none => nofun
    | some error =>
      simp only [fieldIfPresent, List.forall_mem_singleton]
      exact .text error

/-! ## Files of results -/

/-- The results that a text holds as a JSON sequence. -/
def RunResult.readAll? (text : String) : Option (List RunResult) :=
  (Json.read text).bind (list? RunResult.ofData?)

/-- Results are read back as they were from their compact and from their indented JSON if all their
numbers are finite. Otherwise nothing is read back, because a number that is not finite is written
as null. -/
theorem readAll?_written {results : List RunResult} (h : ∀ result ∈ results, result.IsStorable) :
    (∀ write ∈ [Json.compact, Json.indented],
      RunResult.readAll? (write (.sequence (results.map RunResult.toData))) =
        if results.all RunResult.isFinite then some results else none) ∧
      ∀ value : Binary64, value.isFinite = false →
        Json.compact value.toData = "null" ∧ Json.indented value.toData = "null" := by
  constructor
  · have hreadable : IsReadable nestingLimit (.sequence (results.map RunResult.toData)) :=
      .sequence (List.forall_mem_map.2 fun result hresult ↦
        isReadable_result (h result hresult) 121)
    have hrecovered := isRecovered_list fun result hresult ↦ isRecovered_result (h result hresult)
    have hread (text : String)
        (htext : read text = some (Data.sequence (results.map RunResult.toData)).asRead) :
        RunResult.readAll? text =
          if results.all RunResult.isFinite then some results else none := by
      rw [RunResult.readAll?, htext, Option.bind_some, ← Bool.cond_eq_ite]
      exact hrecovered
    obtain ⟨hcompact, hindented⟩ := read_of_isReadable hreadable
    simp only [List.forall_mem_cons]
    exact ⟨hread _ hcompact, hread _ hindented, List.forall_mem_nil _⟩
  · intro value hvalue
    constructor
    · simp [compact, Binary64.toData, Layout.chars, token, hvalue]
    · simp [indented, Binary64.toData, Layout.chars, token, hvalue]

/-- Both zeros, a tenth, a label that looks like it, and a name with a quote. -/
def zerosAndTenths : Series :=
  ⟨[.number .negativeZero, .number ⟨0x3fb999999999999a⟩, .label "0.1"], [1, 1, 2],
    .ofList [("m\"", ⟨[.zero, .negativeZero, ⟨0x3fb999999999999a⟩], [.zero, .zero, .zero],
      [1, 1, 2]⟩)], 3⟩

/-- A metric without a value, which has no mean. -/
def valuelessSeries : Series :=
  ⟨[.label "a"], [1], .ofList [("m", ⟨[.quietNaN false], [.quietNaN false], [0]⟩)], 0⟩

/-- A successful run and a failed one with an error in two lines. -/
def storedResults (series : Series) : List RunResult :=
  [⟨"T", "a.csv", "T/a.csv", some series, none⟩,
   ⟨"T", "b.csv", "T/b.csv", none, some "no colon\nin \"x\""⟩]

theorem readAll?_written_storedResults :
    (∀ series ∈ [zerosAndTenths, valuelessSeries],
      ∀ result ∈ storedResults series, result.IsStorable) ∧
      RunResult.readAll?
          (Json.indented (.sequence ((storedResults zerosAndTenths).map RunResult.toData))) =
        some (storedResults zerosAndTenths) ∧
      RunResult.readAll?
          (Json.compact (.sequence ((storedResults valuelessSeries).map RunResult.toData))) =
        none := by
  have hseries : ∀ series ∈ [zerosAndTenths, valuelessSeries], series.IsStorable := by
    simp only [List.forall_mem_cons]
    refine ⟨⟨?_, by decide, ?_, by decide⟩, ⟨?_, by decide, ?_, by decide⟩, nofun⟩
    · intro value hvalue _
      simp only [zerosAndTenths, List.mem_cons, Setting.number.injEq, reduceCtorEq,
        List.not_mem_nil, or_false] at hvalue
      rcases hvalue with rfl | rfl <;> decide +kernel
    · intro statistics hstatistics
      obtain rfl := List.mem_singleton.1 hstatistics
      exact ⟨by decide +kernel, by decide +kernel, by decide⟩
    · intro value hvalue
      simp [valuelessSeries] at hvalue
    · intro statistics hstatistics
      obtain rfl := List.mem_singleton.1 hstatistics
      exact ⟨by decide +kernel, by decide +kernel, by decide⟩
  have hstorable (series : Series) (hmem : series ∈ [zerosAndTenths, valuelessSeries]) :
      ∀ result ∈ storedResults series, result.IsStorable := by
    simp only [storedResults, List.forall_mem_cons]
    refine ⟨?_, nofun, nofun⟩
    rintro _ ⟨⟩
    exact hseries series hmem
  have hstored := (readAll?_written (hstorable zerosAndTenths (by simp))).1 Json.indented (by simp)
  have hrefused := (readAll?_written (hstorable valuelessSeries (by simp))).1 Json.compact (by simp)
  exact ⟨hstorable, hstored, hrefused⟩

end TrialSeries
