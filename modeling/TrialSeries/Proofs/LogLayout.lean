import TrialSeries.Proofs.LogFaults
import TrialSeries.Proofs.WrittenLines

/-!
# The layout of a run log

Where a log has blank lines, blanks around its lines, carriage returns before its line feeds or a
line feed at its end makes no difference to what it says: its written lines stay the same, one by
one, and only their numbers may change. So the blocks stay the same, and a fault is reported at the
place to which its line has moved.
-/

namespace TrialSeries

namespace Text

/-! ## Changes of the layout -/

/-- Blanks that may stand within a line. -/
def IsPadding (chars : List Char) : Prop := ∀ char ∈ chars, isBlank char = true ∧ char ≠ '\n'

instance (chars : List Char) : Decidable (IsPadding chars) := List.decidableBAll _ chars

/-- A line begins behind this text. -/
def IsLineStart (before : String) : Prop := before = "" ∨ ∃ front, before = front ++ "\n"

/-- A line ends before this text. -/
def IsLineEnd (after : String) : Prop :=
  after = "" ∨ ∃ back, after = "\n" ++ back ∨ after = "\r\n" ++ back

/-- A carriage return put before every line feed. -/
def withCarriageReturns (text : String) : String :=
  String.ofList (text.toList.flatMap fun char ↦ if char = '\n' then ['\r', '\n'] else [char])

/-- The second text is the first one in another layout: changed in one of the ways that keep what
its lines say, or in several such ways one after the other. -/
inductive Relaid : String → String → Prop where
  | carriageReturns (text : String) : Relaid text (withCarriageReturns text)
  | finalFeed (text : String) : Relaid text (text ++ "\n")
  | noFinalFeed (text : String) : Relaid (text ++ "\n") text
  | padStart {before padding : String} (hstart : IsLineStart before)
    (hpadding : IsPadding padding.toList) (after : String) :
    Relaid (before ++ after) (before ++ padding ++ after)
  | padEnd {padding after : String} (hend : IsLineEnd after)
    (hpadding : IsPadding padding.toList) (before : String) :
    Relaid (before ++ after) (before ++ padding ++ after)
  | blankLine {before padding : String} (hstart : IsLineStart before)
    (hpadding : IsPadding padding.toList) (after : String) :
    Relaid (before ++ after) (before ++ padding ++ "\n" ++ after)
  | trans {text middle changed : String} (hfirst : Relaid text middle)
    (hsecond : Relaid middle changed) : Relaid text changed

/-! ## What the lines say -/

/-- The lines of a text that are not blank, without the blanks at their ends. -/
def lineContents (chars : List Char) : List (List Char) :=
  ((splitOn '\n' chars).map trim).filter (· ≠ [])

@[simp] theorem lineContents_nil : lineContents [] = [] := rfl

@[simp] theorem lineContents_feed_cons (chars : List Char) :
    lineContents ('\n' :: chars) = lineContents chars := rfl

theorem lineContents_append_feed (front back : List Char) :
    lineContents (front ++ '\n' :: back) = lineContents front ++ lineContents back := by
  simp [lineContents, splitOn_append]

/-- Blanks before a text stand at the start of its first line. -/
theorem lineContents_padding_append {padding : List Char} (h : IsPadding padding)
    (chars : List Char) : lineContents (padding ++ chars) = lineContents chars := by
  induction padding with
  | nil => rfl
  | cons char padding ih =>
    obtain ⟨⟨hblank, hfeed⟩, hpadding⟩ := List.forall_mem_cons.1 h
    obtain ⟨piece, pieces, hrest, hcons⟩ := exists_splitOn_cons hfeed (padding ++ chars)
    rw [← ih hpadding, lineContents, lineContents, List.cons_append, hcons, hrest, List.map_cons,
      trim_cons_of_isBlank hblank, List.map_cons]

/-- Blanks behind a text stand at the end of its last line. -/
theorem lineContents_append_padding {padding : List Char} (h : IsPadding padding)
    (chars : List Char) : lineContents (chars ++ padding) = lineContents chars := by
  have hfeed : '\n' ∉ padding := fun hmem ↦ (h _ hmem).2 rfl
  have hblank : ∀ char ∈ padding, isBlank char = true := fun char hmem ↦ (h char hmem).1
  obtain ⟨pieces, last, hchars, hpadded⟩ := exists_splitOn_append hfeed chars
  rw [lineContents, lineContents, hchars, hpadded, List.map_append, List.map_append,
    List.map_singleton, List.map_singleton, trim_append_of_isBlank hblank]

theorem isPadding_return : IsPadding ['\r'] := by decide

theorem lineContents_withCarriageReturns (front chars : List Char) :
    lineContents (front ++ chars.flatMap fun char ↦
        if char = '\n' then ['\r', '\n'] else [char]) = lineContents (front ++ chars) := by
  induction chars generalizing front with
  | nil => rfl
  | cons char rest ih =>
    rw [List.flatMap_cons]
    by_cases hfeed : char = '\n'
    · have hrest := ih []
      rw [List.nil_append, List.nil_append] at hrest
      rw [if_pos hfeed, hfeed, lineContents_append_feed, ← hrest]
      calc
        _ = lineContents ((front ++ ['\r']) ++ '\n' :: rest.flatMap _) := by
          rw [List.append_assoc]
          rfl
        _ = _ := by rw [lineContents_append_feed, lineContents_append_padding isPadding_return]
    · have hrest := ih (front ++ [char])
      rw [List.append_assoc, List.append_assoc] at hrest
      rw [if_neg hfeed]
      exact hrest

theorem lineContents_append_of_isLineStart {before : String} (h : IsLineStart before)
    (chars : List Char) :
    lineContents (before.toList ++ chars) = lineContents before.toList ++ lineContents chars := by
  rcases h with rfl | ⟨front, rfl⟩
  · rfl
  · have hfront (chars : List Char) :
        (front ++ "\n").toList ++ chars = front.toList ++ '\n' :: chars := by
      simp
    calc
      _ = lineContents front.toList ++ lineContents chars := by
        rw [hfront, lineContents_append_feed]
      _ = lineContents ((front ++ "\n").toList ++ []) ++ lineContents chars := by
        rw [hfront, lineContents_append_feed, lineContents_nil, List.append_nil]
      _ = _ := by rw [List.append_nil]

theorem lineContents_append_of_isLineEnd {after : String} (h : IsLineEnd after)
    (chars : List Char) :
    lineContents (chars ++ after.toList) = lineContents chars ++ lineContents after.toList := by
  rcases h with rfl | ⟨back, rfl | rfl⟩
  · exact (congrArg lineContents (List.append_nil chars)).trans (List.append_nil _).symm
  · have hback : ("\n" ++ back).toList = '\n' :: back.toList := by simp
    rw [hback, lineContents_append_feed, lineContents_feed_cons]
  · have hback : ("\r\n" ++ back).toList = ['\r'] ++ '\n' :: back.toList := by simp
    rw [hback, ← List.append_assoc, lineContents_append_feed,
      lineContents_append_padding isPadding_return, lineContents_padding_append isPadding_return,
      lineContents_feed_cons]

/-- The lines of a text say the same in every layout. -/
theorem Relaid.lineContents_eq {text changed : String} (h : Relaid text changed) :
    lineContents changed.toList = lineContents text.toList := by
  have hfeed (text : String) : lineContents (text ++ "\n").toList = lineContents text.toList := by
    have hend : IsLineEnd "\n" := .inr ⟨"", .inl rfl⟩
    rw [String.toList_append, lineContents_append_of_isLineEnd hend]
    exact List.append_nil _
  induction h with
  | carriageReturns text =>
    rw [withCarriageReturns, String.toList_ofList]
    exact lineContents_withCarriageReturns [] text.toList
  | finalFeed text => exact hfeed text
  | noFinalFeed text => exact (hfeed text).symm
  | padStart hstart hpadding after =>
    rw [String.toList_append, String.toList_append, String.toList_append, List.append_assoc,
      lineContents_append_of_isLineStart hstart, lineContents_append_of_isLineStart hstart,
      lineContents_padding_append hpadding]
  | padEnd hend hpadding before =>
    rw [String.toList_append, String.toList_append, String.toList_append,
      lineContents_append_of_isLineEnd hend, lineContents_append_of_isLineEnd hend,
      lineContents_append_padding hpadding]
  | @blankLine before padding hstart hpadding after =>
    have hchars : (before ++ padding ++ "\n" ++ after).toList =
        before.toList ++ (padding.toList ++ '\n' :: after.toList) := by
      simp
    rw [hchars, String.toList_append, lineContents_append_of_isLineStart hstart,
      lineContents_append_of_isLineStart hstart, lineContents_padding_append hpadding,
      lineContents_feed_cons]
  | trans _ _ hfirst hsecond => exact hsecond.trans hfirst

/-! ## Lines and pieces -/

theorem trim_dropCarriageReturn (line : List Char) : trim (dropCarriageReturn line) = trim line := by
  unfold dropCarriageReturn
  split
  · rename_i hlast
    have hreturn : ∀ char ∈ ['\r'], isBlank char = true := List.forall_mem_singleton.2 rfl
    rw [← trim_append_of_isBlank hreturn, List.dropLast_append_getLast? _ hlast]
  · rfl

/-- A line says what the piece up to its line feed says. -/
theorem filter_map_trim_lines (chars : List Char) :
    ((lines chars).map trim).filter (· ≠ []) = lineContents chars := by
  rw [lines, lineContents]
  induction splitOn '\n' chars with
  | nil => rfl
  | cons piece pieces ih =>
    cases pieces with
    | nil => cases piece <;> rfl
    | cons next pieces =>
      simp only [linesOfPieces, List.map_cons, trim_dropCarriageReturn, List.filter_cons] at ih ⊢
      rw [ih]

end Text

namespace RunLog

/-- The written lines of a log with their numbers. -/
def writtenOf (text : String) : List (Nat × List Char) := writtenLines 1 (Text.lines text.toList)

theorem map_snd_writtenOf (text : String) :
    (writtenOf text).map (·.2) = Text.lineContents text.toList := by
  rw [writtenOf, map_snd_writtenLines, Text.filter_map_trim_lines]

variable {rule : Extraction}

/-- Where a written line cannot be read, the line in the same place among written lines that say the
same is the one that cannot be read there. -/
theorem exists_of_mapM_readNumbered_eq_error {written others : List (Nat × List Char)}
    (hsame : others.map (·.2) = written.map (·.2)) {error : LogError}
    (h : written.mapM (readNumbered rule) = .error error) :
    ∃ (place number : Nat) (line : List Char), written[place]? = some (error.line, line) ∧
      others[place]? = some (number, line) ∧
      others.mapM (readNumbered rule) = .error (error.atLine number) := by
  have hbad (line : Nat × List Char) :
      (∃ error, readNumbered rule line = .error error) ↔ IsBad rule line.2 :=
    (isBad_iff line.1).symm
  obtain ⟨place, ⟨number, line⟩, hfirst, hline⟩ := mapM_eq_error_iff.1 h
  have hread : readLine rule number line = .error error := hline
  have hnumber : error.line = number := line_of_readLine hread
  have hother : (others.map (·.2))[place]? = some line := by
    rw [hsame, List.getElem?_map, hfirst.1, Option.map_some]
  rw [List.getElem?_map, Option.map_eq_some_iff] at hother
  obtain ⟨⟨otherNumber, _⟩, hother, rfl⟩ := hother
  refine ⟨place, otherNumber, _, hnumber ▸ hfirst.1, hother, ?_⟩
  rw [mapM_eq_error_iff]
  simp only [hbad] at hfirst ⊢
  rw [← isFirst_map hfirst.1, ← hsame] at hfirst
  refine ⟨place, _, (isFirst_map hother).1 hfirst, ?_⟩
  rw [readNumbered, readLine_atLine rule number otherNumber, hread]
  rfl

/-- A log in another layout has the same written lines, and so the same blocks. If it cannot be
read, the same fault is reported on the line which stands in the same place among the written
lines. -/
theorem parse_of_relaid {text changed : String} (h : Text.Relaid text changed)
    (rule : Extraction) :
    (writtenOf changed).map (·.2) = (writtenOf text).map (·.2) ∧
      (∀ blocks, parse rule changed = .ok blocks ↔ parse rule text = .ok blocks) ∧
      ∀ error, parse rule text = .error error →
        ∃ (place number : Nat) (line : List Char),
          (writtenOf text)[place]? = some (error.line, line) ∧
          (writtenOf changed)[place]? = some (number, line) ∧
          parse rule changed = .error (error.atLine number) := by
  have hparse (text : String) :
      parse rule text = ((writtenOf text).mapM (readNumbered rule)).map blocksOf :=
    parseLines_eq_mapM_writtenLines rule (Text.lines text.toList)
  have hsame : (writtenOf changed).map (·.2) = (writtenOf text).map (·.2) := by
    rw [map_snd_writtenOf, map_snd_writtenOf, h.lineContents_eq]
  refine ⟨hsame, ?_, ?_⟩
  · intro blocks
    simp only [hparse, map_eq_ok_iff, mapM_readNumbered_eq_ok_iff, hsame]
  · intro error herror
    rw [hparse, map_eq_error_iff] at herror
    simp only [hparse, map_eq_error_iff]
    exact exists_of_mapM_readNumbered_eq_error hsame herror

/-- A log whose second line holds a piece that is no number. -/
def denseLog : String := "settings:A\nm:1,x"

/-- The same log behind a blank line, indented, and with the line ends of another system. -/
def spaciousLog : String := "\r\n \tsettings:A\r\nm:1,x\r\n"

theorem parse_of_relaid_spaciousLog :
    Text.Relaid denseLog spaciousLog ∧
      parse .whole denseLog = .error (.invalidNumber 2 "m" "x") ∧
      writtenOf spaciousLog = [(2, "settings:A".toList), (3, "m:1,x".toList)] ∧
      parse .whole spaciousLog = .error (.invalidNumber 3 "m" "x") := by
  have hblank : Text.Relaid denseLog ("\n" ++ denseLog) :=
    .blankLine (.inl rfl) (by decide : Text.IsPadding "".toList) denseLog
  have hindented : Text.Relaid ("\n" ++ denseLog) ("\n" ++ " \t" ++ denseLog) :=
    .padStart (.inr ⟨"", rfl⟩) (by decide) denseLog
  have hrelaid : Text.Relaid denseLog spaciousLog :=
    ((hblank.trans hindented).trans (.finalFeed _)).trans (.carriageReturns _)
  have hdense : parse .whole denseLog = .error (.invalidNumber 2 "m" "x") := rfl
  have hwritten : writtenOf spaciousLog = [(2, "settings:A".toList), (3, "m:1,x".toList)] := rfl
  obtain ⟨place, number, line, hplace, hmoved, herror⟩ :=
    (parse_of_relaid hrelaid .whole).2.2 _ hdense
  have hfirst : writtenOf denseLog = [(1, "settings:A".toList), (2, "m:1,x".toList)] := rfl
  have hsecond : place = 1 := by
    rw [hfirst] at hplace
    match place with
    | 0 => cases hplace
    | 1 => rfl
    | place + 2 => cases hplace
  rw [hsecond, hwritten] at hmoved
  cases hmoved
  exact ⟨hrelaid, hdense, hwritten, herror⟩

end RunLog

end TrialSeries
