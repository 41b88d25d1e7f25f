import TrialSeries.Proofs.WrittenLines

/-!
# Logs one after the other

A log whose first written line opens a block takes nothing up from the log before it and leaves
nothing to it. So the blocks of two such logs in one are the blocks of the first and then those of
the second, and a fault of the second stands as many lines further down as the first has lines.
-/

namespace TrialSeries

/-- The same failure some lines further down. -/
def LogError.movedBy (offset : Nat) (error : LogError) : LogError :=
  error.atLine (error.line + offset)

namespace RunLog

/-- The first line of a log that is not blank, if there is one, is a settings line. -/
def StartsWithBlock (lines : List (List Char)) : Prop :=
  ∀ line, lines.find? (Text.trim · ≠ []) = some line → ∃ payload, Gives line settingsName payload

variable {rule : Extraction}

/-! ## Lines further down -/

theorem readNumbered_add (rule : Extraction) (offset : Nat) (line : Nat × List Char) :
    readNumbered rule (line.1 + offset, line.2) =
      (readNumbered rule line).mapError (LogError.movedBy offset) := by
  have hmoved := readLine_atLine rule line.1 (line.1 + offset) line.2
  rw [readNumbered, readNumbered, hmoved]
  cases hline : readLine rule line.1 line.2 with
  | ok entry => rfl
  | error error =>
    have hnumber := line_of_readLine hline
    simp only [Except.mapError, LogError.movedBy, hnumber]

theorem mapM_writtenLines_add (rule : Extraction) (number offset : Nat)
    (lines : List (List Char)) :
    (writtenLines (number + offset) lines).mapM (readNumbered rule) =
      ((writtenLines number lines).mapM (readNumbered rule)).mapError
        (LogError.movedBy offset) := by
  rw [writtenLines_add, List.mapM_map, ← mapM_mapError,
    ← funext (readNumbered_add rule offset)]
  rfl

/-! ## The first entry -/

theorem exists_gives_of_head? {lines : List (List Char)} (h : StartsWithBlock lines) {number : Nat}
    {line : Nat × List Char} (hline : (writtenLines number lines).head? = some line) :
    ∃ payload, Gives line.2 settingsName payload := by
  have hfound : ((writtenLines number lines).map (·.2)).head? = some line.2 := by
    rw [List.head?_map, hline, Option.map_some]
  rw [map_snd_writtenLines, List.head?_filter, List.find?_map, Option.map_eq_some_iff] at hfound
  obtain ⟨found, hfound, htrim⟩ := hfound
  obtain ⟨payload, hgives⟩ := h found hfound
  refine ⟨payload, ?_, hgives.2⟩
  rw [← htrim, Text.trim_trim]
  exact hgives.1

/-- The written lines of a log that starts with a block begin with an entry that opens one. -/
theorem isNone_axis?_of_head? {lines : List (List Char)} (h : StartsWithBlock lines)
    {entries : List Entry}
    (hread : (writtenLines 1 lines).mapM (readNumbered rule) = .ok entries) :
    ∀ entry ∈ entries.head?, entry.axis?.isNone = false := by
  have hentries := mapM_eq_ok_iff.1 hread
  generalize hwritten : writtenLines 1 lines = written at hentries
  cases hentries with
  | nil => simp
  | @cons line found _ _ hline _ =>
    have hhead : (writtenLines 1 lines).head? = some line := by
      rw [hwritten, List.head?_cons]
    obtain ⟨payload, hgives⟩ := exists_gives_of_head? h hhead
    rw [readNumbered, readLine_of_settings hgives, map_eq_ok_iff] at hline
    obtain ⟨axis, -, rfl⟩ := hline
    intro entry hentry
    rw [List.head?_cons, Option.mem_some_iff] at hentry
    rw [← hentry]
    rfl

theorem blocksOf_append {second : List Entry}
    (h : ∀ entry ∈ second.head?, entry.axis?.isNone = false) (first : List Entry) :
    blocksOf (first ++ second) = blocksOf first ++ blocksOf second := by
  rw [blocksOf_eq_map_sections, blocksOf_eq_map_sections, blocksOf_eq_map_sections,
    sections_append h, List.map_append]

/-! ## Two logs in one -/

/-- A log followed by one that starts with a block gives the blocks of both, one after the other. A
fault of the first is reported as in the first alone; a fault of the second alone is reported that
many lines further down. -/
theorem parseLines_append (rule : Extraction) (first : List (List Char))
    {second : List (List Char)} (h : StartsWithBlock second) :
    parseLines rule (first ++ second) =
      match parseLines rule first, parseLines rule second with
      | .error error, _ => .error error
      | .ok _, .error error => .error (error.movedBy first.length)
      | .ok blocks, .ok others => .ok (blocks ++ others) := by
  rw [parseLines_eq_mapM_writtenLines rule first, parseLines_eq_mapM_writtenLines rule second,
    parseLines_eq_mapM_writtenLines, writtenLines_append, List.mapM_append,
    mapM_writtenLines_add]
  cases (writtenLines 1 first).mapM (readNumbered rule) with
  | error error => rfl
  | ok entries =>
    cases hsecond : (writtenLines 1 second).mapM (readNumbered rule) with
    | error error => rfl
    | ok others =>
      have hhead := isNone_axis?_of_head? h hsecond
      exact congrArg Except.ok (blocksOf_append hhead entries)

/-- A log that ends within a block, with a colon in its settings. -/
def unfinishedLog : List (List Char) := ["m:9", "settings: a:b", "m:1,2", ""].map String.toList

/-- A log of one block behind a blank line, with a line that is no list of numbers. -/
def misspelledLog : List (List Char) := [" ", "settings:A", "n:1", "m:3,x"].map String.toList

theorem parseLines_append_misspelledLog :
    StartsWithBlock misspelledLog ∧
      parseLines .whole (unfinishedLog ++ misspelledLog) = .error (.invalidNumber 8 "m" "x") ∧
      (parseLines .whole (unfinishedLog ++ misspelledLog.take 3)).map (List.map (·.axis)) =
        .ok [.point (.label "a:b"), .point (.label "A")] := by
  have hstart (lines : List (List Char))
      (hline : lines.find? (Text.trim · ≠ []) = some "settings:A".toList) :
      StartsWithBlock lines := by
    intro line hfound
    rw [hline, Option.some_inj] at hfound
    refine ⟨['A'], ?_, by decide⟩
    rw [← hfound]
    rfl
  have hbad : StartsWithBlock misspelledLog := hstart _ rfl
  have hgood : StartsWithBlock (misspelledLog.take 3) := hstart _ rfl
  refine ⟨hbad, ?_, ?_⟩
  · rw [parseLines_append .whole unfinishedLog hbad]
    rfl
  · rw [parseLines_append .whole unfinishedLog hgood]
    rfl

end RunLog

end TrialSeries
