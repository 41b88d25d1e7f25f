import TrialSeries.Json.Reader
import TrialSeries.Json.Writer
import TrialSeries.Proofs.JsonTokens

/-!
# Reading what was written

Compact and indented JSON differ in blanks alone, and blanks are passed over. So data that was
written in either form is read back as it was, apart from what has no form of its own: a number that
is not finite has become null.
-/

namespace TrialSeries

namespace Data

mutual

/-- What written data is read back as. -/
def asRead : Data → Data
  | .real value => if value.isFinite then .real value else .null
  | .unusable => .null
  | .sequence items => .sequence (itemsAsRead items)
  | .record fields => .record (fieldsAsRead fields)
  | data => data

def itemsAsRead : List Data → List Data
  | [] => []
  | item :: items => item.asRead :: itemsAsRead items

def fieldsAsRead : List (String × Data) → List (String × Data)
  | [] => []
  | (name, value) :: fields => (name, value.asRead) :: fieldsAsRead fields

end

theorem itemsAsRead_eq (items : List Data) : itemsAsRead items = items.map asRead := by
  induction items with
  | nil => rfl
  | cons item items ih => rw [itemsAsRead, ih, List.map_cons]

theorem fieldsAsRead_eq (fields : List (String × Data)) :
    fieldsAsRead fields = fields.map fun (name, value) ↦ (name, value.asRead) := by
  induction fields with
  | nil => rfl
  | cons field fields ih => rw [fieldsAsRead, ih, List.map_cons]

theorem natural?_integer {n : Nat} (h : n < UInt64.size) : natural? (.integer n) = some n := by
  have hbound : (0 : Int) ≤ n ∧ (n : Int) < UInt64.size := ⟨by omega, by exact_mod_cast h⟩
  rw [natural?, if_pos hbound]
  rfl

end Data

namespace Json

/-! ## Layouts -/

namespace Layout

/-- Only blanks are added. -/
structure IsBlank (layout : Layout) : Prop where
  line (depth : Nat) : ∀ char ∈ layout.line depth, Json.isBlank char = true
  gap : ∀ char ∈ layout.gap, Json.isBlank char = true

theorem isBlank_compact : compact.IsBlank := ⟨nofun, nofun⟩

theorem isBlank_indented : indented.IsBlank := by
  constructor
  · intro depth char hchar
    rcases List.mem_cons.1 hchar with rfl | hchar
    · decide
    · rw [List.eq_of_mem_replicate hchar]
      decide
  · intro char hchar
    rw [List.mem_singleton.1 hchar]
    decide

end Layout

/-! ## What can be read -/

/-- The text of a finite number is read back as the number. -/
def ReadsBack (value : Binary64) : Prop :=
  number value.dataText.toList = some (.real value, [])

instance (value : Binary64) : Decidable (ReadsBack value) :=
  decidable_of_iff
    ((match number value.dataText.toList with
      | some (.real found, []) => decide (found = value)
      | _ => false) = true) (by
    unfold ReadsBack
    split
    · rename_i heq
      simp [heq]
    · rename_i hnone
      constructor
      · nofun
      · intro heq
        exact absurd heq (hnone value))

/-- Data that a reader takes without loss where there is room for so many sequences and records in
one another: integers have 64 bits, and the texts of finite numbers are read back. -/
inductive IsReadable : Nat → Data → Prop where
  | null {room : Nat} : IsReadable room .null
  | boolean {room : Nat} (value : Bool) : IsReadable room (.boolean value)
  | integer {room : Nat} {value : Nat} (h : value < UInt64.size) :
      IsReadable room (.integer value)
  | real {room : Nat} {value : Binary64} (h : value.isFinite = true → ReadsBack value) :
      IsReadable room (.real value)
  | text {room : Nat} (content : String) : IsReadable room (.text content)
  | sequence {room : Nat} {items : List Data} (h : ∀ item ∈ items, IsReadable room item) :
      IsReadable (room + 1) (.sequence items)
  | record {room : Nat} {fields : List (String × Data)}
      (h : ∀ field ∈ fields, IsReadable room field.2) : IsReadable (room + 1) (.record fields)

/-! ## Blanks -/

theorem skipBlanks_append {blanks : List Char} (h : ∀ char ∈ blanks, isBlank char = true)
    (rest : List Char) : skipBlanks (blanks ++ rest) = skipBlanks rest :=
  List.dropWhile_append_of_pos h

theorem skipBlanks_cons {char : Char} (h : isBlank char = false) (rest : List Char) :
    skipBlanks (char :: rest) = char :: rest := by
  rw [skipBlanks, List.dropWhile_cons_of_neg (by simp [h])]

section Blanks

variable {blanks : List Char} (h : ∀ char ∈ blanks, isBlank char = true)

include h

theorem value_append (fuel room : Nat) (rest : List Char) :
    value fuel room (blanks ++ rest) = value fuel room rest := by
  cases fuel with
  | zero => rfl
  | succ fuel => rw [value, value, skipBlanks_append h]

theorem fields_append (fuel room : Nat) (rest : List Char) :
    fields fuel room (blanks ++ rest) = fields fuel room rest := by
  cases fuel with
  | zero => rfl
  | succ fuel => rw [fields, fields, skipBlanks_append h]

theorem endsNumber_append {rest : List Char} (hrest : EndsNumber rest) :
    EndsNumber (blanks ++ rest) := by
  cases blanks with
  | nil => exact hrest
  | cons blank blanks =>
    intro char hchar
    obtain rfl : blank = char := Option.some.inj hchar
    have hblank := h blank List.mem_cons_self
    simp only [isBlank, Bool.or_eq_true, decide_eq_true_eq] at hblank
    rcases hblank with ((rfl | rfl) | rfl) | rfl <;> decide

end Blanks

/-! ## Tokens -/

theorem not_isBlank_of_starts {char : Char} (h : char = '-' ∨ char.isDigit = true) :
    isBlank char = false := by
  rw [Bool.eq_false_iff]
  intro hblank
  simp only [isBlank, Bool.or_eq_true, decide_eq_true_eq] at hblank
  rcases hblank with ((rfl | rfl) | rfl) | rfl <;> revert h <;> decide

/-- A value that starts with a sign or a digit is a number. -/
theorem value_of_number {chars after : List Char} {data : Data}
    (h : number chars = some (data, after)) (fuel room : Nat) :
    value (fuel + 1) room chars = some (data, after) := by
  obtain ⟨char, tail, rfl, hchar⟩ := exists_cons_of_number h
  rw [value, skipBlanks_cons (not_isBlank_of_starts hchar)]
  split
  all_goals first | exact h | skip
  all_goals
    rename_i heq
    cases heq
    exact absurd hchar (by decide)

theorem value_null (fuel room : Nat) (rest : List Char) :
    value (fuel + 1) room ("null".toList ++ rest) = some (.null, rest) := by
  simp [value, skipBlanks, isBlank]

theorem value_boolean (flag : Bool) (fuel room : Nat) (rest : List Char) :
    value (fuel + 1) room ((if flag then "true" else "false").toList ++ rest) =
      some (.boolean flag, rest) := by
  cases flag <;> simp [value, skipBlanks, isBlank]

theorem value_quoted (content : String) (fuel room : Nat) (rest : List Char) :
    value (fuel + 1) room (quoted content ++ rest) = some (.text content, rest) := by
  have hquoted : quoted content ++ rest =
      '"' :: (content.toList.flatMap escapeChar ++ '"' :: rest) := by simp [quoted]
  rw [hquoted, value, skipBlanks_cons (by decide)]
  simp only [quotedContent_escaped, Option.map_some, textValue]

/-! ## Sequences and records -/

section Brackets

variable {fuel room : Nat} {chars rest : List Char}

theorem items_skipBlanks (fuel room : Nat) (chars : List Char) :
    items fuel room (skipBlanks chars) = items fuel room chars := by
  have hblank : ∀ char ∈ chars.takeWhile isBlank, isBlank char = true := fun _ h ↦
    List.mem_takeWhile_imp h
  cases fuel with
  | zero => rfl
  | succ fuel =>
    conv_rhs => rw [← List.takeWhile_append_dropWhile (p := isBlank) (l := chars)]
    rw [items, items, value_append hblank]
    rfl

theorem fields_skipBlanks (fuel room : Nat) (chars : List Char) :
    fields fuel room (skipBlanks chars) = fields fuel room chars := by
  have hblank : ∀ char ∈ chars.takeWhile isBlank, isBlank char = true := fun _ h ↦
    List.mem_takeWhile_imp h
  conv_rhs => rw [← List.takeWhile_append_dropWhile (p := isBlank) (l := chars)]
  rw [fields_append hblank]
  rfl

theorem items_closing (fuel room : Nat) (rest : List Char) :
    items fuel room (']' :: rest) = none := by
  have hvalue (fuel : Nat) : value fuel room (']' :: rest) = none := by
    cases fuel with
    | zero => rfl
    | succ fuel =>
      rw [value, skipBlanks_cons (by decide)]
      rfl
  cases fuel with
  | zero => rfl
  | succ fuel =>
    rw [items, hvalue]
    rfl

theorem fields_closing (fuel room : Nat) (rest : List Char) :
    fields fuel room ('\x7d' :: rest) = none := by
  cases fuel with
  | zero => rfl
  | succ fuel =>
    rw [fields, skipBlanks_cons (by decide)]
    rfl

theorem value_bracket (fuel room : Nat) (chars : List Char) :
    value (fuel + 1) room ('[' :: chars) =
      match skipBlanks chars with
      | ']' :: rest => some (nested room (.sequence []), rest)
      | rest => (items fuel (room - 1) rest).map fun (items, rest) ↦
          (nested room (.sequence items), rest) := by
  rw [value, skipBlanks_cons (by decide)]
  rfl

theorem value_brace (fuel room : Nat) (chars : List Char) :
    value (fuel + 1) room ('\x7b' :: chars) =
      match skipBlanks chars with
      | '\x7d' :: rest => some (nested room (.record []), rest)
      | rest => (fields fuel (room - 1) rest).map fun (fields, rest) ↦
          (nested room (recordValue fields), rest) := by
  rw [value, skipBlanks_cons (by decide)]
  rfl

theorem value_sequence {found : List Data} (h : items fuel room chars = some (found, rest)) :
    value (fuel + 1) (room + 1) ('[' :: chars) = some (.sequence found, rest) := by
  rw [value_bracket]
  split
  · rename_i tail heq
    rw [← items_skipBlanks, heq, items_closing] at h
    cases h
  · rw [items_skipBlanks, Nat.add_sub_cancel, h]
    rfl

theorem mapM_named (fields : List (String × Data)) :
    ((fields.map fun (name, item) ↦ (some name, item)).mapM
      fun (name, item) ↦ name.map (·, item)) = some fields := by
  induction fields with
  | nil => rfl
  | cons field fields ih =>
    rw [List.map_cons, List.mapM_cons, ih]
    rfl

theorem recordValue_some (fields : List (String × Data)) :
    recordValue (fields.map fun (name, item) ↦ (some name, item)) = .record fields := by
  rw [recordValue, mapM_named]

theorem value_record {found : List (String × Data)}
    (h : fields fuel room chars =
      some (found.map fun (name, item) ↦ (some name, item), rest)) :
    value (fuel + 1) (room + 1) ('\x7b' :: chars) = some (.record found, rest) := by
  rw [value_brace]
  split
  · rename_i tail heq
    rw [← fields_skipBlanks, heq, fields_closing] at h
    cases h
  · rw [fields_skipBlanks, Nat.add_sub_cancel, h]
    simp only [Option.map_some, recordValue_some]
    rfl

theorem items_last {item : Data} {after : List Char}
    (hitem : value fuel room chars = some (item, after)) (hafter : skipBlanks after = ']' :: rest) :
    items (fuel + 1) room chars = some ([item], rest) := by
  rw [items, hitem]
  simp only [bind, Option.bind_some, hafter]

theorem items_more {item : Data} {more : List Data} {after next : List Char}
    (hitem : value fuel room chars = some (item, after)) (hafter : skipBlanks after = ',' :: next)
    (hmore : items fuel room next = some (more, rest)) :
    items (fuel + 1) room chars = some (item :: more, rest) := by
  rw [items, hitem]
  simp only [bind, Option.bind_some, hafter, hmore]

theorem quoted_append (name : String) (rest : List Char) :
    quoted name ++ rest = '"' :: (name.toList.flatMap escapeChar ++ '"' :: rest) := by
  simp [quoted]

theorem fields_last {name : String} {item : Data} {after : List Char}
    (hitem : value fuel room chars = some (item, after))
    (hafter : skipBlanks after = '\x7d' :: rest) :
    fields (fuel + 1) room (quoted name ++ ':' :: chars) = some ([(some name, item)], rest) := by
  rw [quoted_append, fields, skipBlanks_cons (by decide)]
  simp only [bind, quotedContent_escaped, Option.bind_some,
    skipBlanks_cons (show isBlank ':' = false by decide), hitem, hafter]

theorem fields_more {name : String} {item : Data} {more : List (Option String × Data)}
    {after next : List Char} (hitem : value fuel room chars = some (item, after))
    (hafter : skipBlanks after = ',' :: next)
    (hmore : fields fuel room next = some (more, rest)) :
    fields (fuel + 1) room (quoted name ++ ':' :: chars) =
      some ((some name, item) :: more, rest) := by
  rw [quoted_append, fields, skipBlanks_cons (by decide)]
  simp only [bind, quotedContent_escaped, Option.bind_some,
    skipBlanks_cons (show isBlank ':' = false by decide), hitem, hafter, hmore]

end Brackets

/-! ## Data -/

theorem endsNumber_comma (rest : List Char) : EndsNumber (',' :: rest) := by
  rintro _ ⟨⟩
  decide

theorem endsNumber_bracket (rest : List Char) : EndsNumber (']' :: rest) := by
  rintro _ ⟨⟩
  decide

theorem endsNumber_brace (rest : List Char) : EndsNumber ('\x7d' :: rest) := by
  rintro _ ⟨⟩
  decide

theorem endsNumber_nil : EndsNumber [] := nofun

/-- With fuel for its length a text is read back, whatever follows it. -/
def IsRead (layout : Layout) (room : Nat) (data : Data) : Prop :=
  ∀ depth fuel rest, EndsNumber rest → 2 * (layout.chars depth data).length < fuel →
    value fuel room (layout.chars depth data ++ rest) = some (data.asRead, rest)

theorem isRead_of_succ {layout : Layout} {room : Nat} {data : Data}
    (h : ∀ depth fuel rest, EndsNumber rest → 2 * (layout.chars depth data).length ≤ fuel →
      value (fuel + 1) room (layout.chars depth data ++ rest) = some (data.asRead, rest)) :
    IsRead layout room data := by
  intro depth fuel rest hrest hfuel
  obtain ⟨less, rfl⟩ : ∃ less, fuel = less + 1 := ⟨fuel - 1, by omega⟩
  exact h depth less rest hrest (by omega)

section Layouts

variable {layout : Layout} (hlayout : layout.IsBlank) {room : Nat}

include hlayout

theorem items_itemChars {list : List Data} (hne : list ≠ [])
    (hitems : ∀ item ∈ list, IsRead layout room item) {closing : List Char}
    (hclosing : ∀ char ∈ closing, isBlank char = true) (depth : Nat) {fuel : Nat}
    (hfuel : 2 * (layout.itemChars depth list).length + 1 < fuel) (rest : List Char) :
    items fuel room (layout.itemChars depth list ++ (closing ++ ']' :: rest)) =
      some (Data.itemsAsRead list, rest) := by
  induction list generalizing fuel with
  | nil => exact absurd rfl hne
  | cons item list ih =>
    obtain ⟨fuel, rfl⟩ : ∃ less, fuel = less + 1 := ⟨fuel - 1, by omega⟩
    obtain ⟨hitem, hitems⟩ := List.forall_mem_cons.1 hitems
    cases list with
    | nil =>
      simp only [Layout.itemChars, List.length_append] at hfuel
      rw [Layout.itemChars, List.append_assoc]
      apply items_last
      · rw [value_append (hlayout.line depth)]
        exact hitem depth fuel _ (endsNumber_append hclosing (endsNumber_bracket rest)) (by omega)
      · rw [skipBlanks_append hclosing, skipBlanks_cons (by decide)]
    | cons next list =>
      simp only [Layout.itemChars, List.length_append, List.length_cons] at hfuel
      rw [Layout.itemChars, List.append_assoc, List.append_assoc, List.cons_append]
      · apply items_more
        · rw [value_append (hlayout.line depth)]
          exact hitem depth fuel _ (endsNumber_comma _) (by omega)
        · exact skipBlanks_cons (by decide) _
        · exact ih (by simp) hitems (by omega)
      · nofun

theorem fields_fieldChars {list : List (String × Data)} (hne : list ≠ [])
    (hfields : ∀ field ∈ list, IsRead layout room field.2) {closing : List Char}
    (hclosing : ∀ char ∈ closing, isBlank char = true) (depth : Nat) {fuel : Nat}
    (hfuel : 2 * (layout.fieldChars depth list).length + 1 < fuel) (rest : List Char) :
    fields fuel room (layout.fieldChars depth list ++ (closing ++ '\x7d' :: rest)) =
      some ((Data.fieldsAsRead list).map fun (name, item) ↦ (some name, item), rest) := by
  induction list generalizing fuel with
  | nil => exact absurd rfl hne
  | cons field list ih =>
    obtain ⟨name, item⟩ := field
    obtain ⟨fuel, rfl⟩ : ∃ less, fuel = less + 1 := ⟨fuel - 1, by omega⟩
    obtain ⟨hitem, hfields⟩ := List.forall_mem_cons.1 hfields
    change IsRead layout room item at hitem
    cases list with
    | nil =>
      simp only [Layout.fieldChars, List.length_append, List.length_cons] at hfuel
      simp only [Layout.fieldChars, List.append_assoc, List.cons_append]
      rw [fields_append (hlayout.line depth)]
      apply fields_last
      · rw [value_append hlayout.gap]
        exact hitem depth fuel _ (endsNumber_append hclosing (endsNumber_brace rest)) (by omega)
      · rw [skipBlanks_append hclosing, skipBlanks_cons (by decide)]
    | cons next list =>
      simp only [Layout.fieldChars, List.length_append, List.length_cons] at hfuel
      simp only [Layout.fieldChars, List.append_assoc, List.cons_append]
      rw [fields_append (hlayout.line depth)]
      apply fields_more
      · rw [value_append hlayout.gap]
        exact hitem depth fuel _ (endsNumber_comma _) (by omega)
      · exact skipBlanks_cons (by decide) _
      · exact ih (by simp) hfields (by omega)

/-- Readable data is read back. -/
theorem isRead_of_isReadable {data : Data} (h : IsReadable room data) :
    IsRead layout room data := by
  induction h with
  | null => exact isRead_of_succ fun _ fuel rest _ _ ↦ value_null fuel _ rest
  | boolean flag => exact isRead_of_succ fun _ fuel rest _ _ ↦ value_boolean flag fuel _ rest
  | text content => exact isRead_of_succ fun _ fuel rest _ _ ↦ value_quoted content fuel _ rest
  | integer hvalue =>
    apply isRead_of_succ
    intro depth fuel rest hrest _
    exact value_of_number (number_append hrest (number_natural hvalue)) fuel _
  | @real room number hback =>
    apply isRead_of_succ
    intro depth fuel rest hrest _
    cases hfinite : number.isFinite with
    | true =>
      have hnumber := value_of_number (number_append hrest (hback hfinite)) fuel room
      simpa [Layout.chars, token, Data.asRead, hfinite] using hnumber
    | false => simpa [Layout.chars, token, Data.asRead, hfinite] using value_null fuel room rest
  | @sequence room list _ ih =>
    apply isRead_of_succ
    intro depth fuel rest _ hfuel
    cases list with
    | nil =>
      rw [Layout.chars, List.cons_append, value_bracket]
      rfl
    | cons item list =>
      simp only [Layout.chars, List.length_cons, List.length_append] at hfuel
      simp only [Layout.chars, List.append_assoc, List.cons_append, List.nil_append]
      apply value_sequence
      exact items_itemChars hlayout (by simp) ih (hlayout.line depth) (depth + 1) (by omega) rest
  | @record room list _ ih =>
    apply isRead_of_succ
    intro depth fuel rest _ hfuel
    cases list with
    | nil =>
      rw [Layout.chars, List.cons_append, value_brace]
      rfl
    | cons field list =>
      simp only [Layout.chars, List.length_cons, List.length_append] at hfuel
      simp only [Layout.chars, List.append_assoc, List.cons_append, List.nil_append]
      apply value_record
      exact fields_fieldChars hlayout (by simp) ih (hlayout.line depth) (depth + 1) (by omega) rest

end Layouts

/-- Data that is nested no deeper than the limit is read back from both of its texts. -/
theorem read_of_isReadable {data : Data} (h : IsReadable nestingLimit data) :
    read (compact data) = some data.asRead ∧ read (indented data) = some data.asRead := by
  have hread {layout : Layout} (hlayout : layout.IsBlank) :
      read (String.ofList (layout.chars 0 data)) = some data.asRead := by
    have hvalue := isRead_of_isReadable hlayout h 0 (2 * (layout.chars 0 data).length + 2) []
      endsNumber_nil (by omega)
    rw [List.append_nil] at hvalue
    rw [read, String.toList_ofList, hvalue]
    rfl
  constructor
  · exact hread Layout.isBlank_compact
  · exact hread Layout.isBlank_indented

end Json

end TrialSeries
