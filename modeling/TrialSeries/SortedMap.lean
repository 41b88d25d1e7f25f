/-!
# Maps ordered by their keys

A map is its list of entries with strictly ascending keys, so equal maps have equal entries and
every walk over a map is in key order. The one updating operation is `alter`, which changes the
value under a key, or starts one, and leaves all other entries where they are.
-/

namespace TrialSeries

/-- Entries under distinct keys, listed by ascending key. -/
structure SortedMap (κ α : Type) [Ord κ] where
  entries : List (κ × α)
  ascending : entries.Pairwise fun left right ↦ compare left.1 right.1 = .lt

namespace SortedMap

variable {κ α β : Type} [Ord κ]

@[ext] theorem ext {left right : SortedMap κ α} (h : left.entries = right.entries) :
    left = right := by
  cases left; cases right; cases h; rfl

instance [DecidableEq κ] [DecidableEq α] : DecidableEq (SortedMap κ α) := fun left right ↦
  decidable_of_iff (left.entries = right.entries) ⟨ext, fun h ↦ h ▸ rfl⟩

def empty : SortedMap κ α := ⟨[], .nil⟩

instance : EmptyCollection (SortedMap κ α) := ⟨empty⟩

instance : Inhabited (SortedMap κ α) := ⟨empty⟩

def keys (map : SortedMap κ α) : List κ := map.entries.map (·.1)

def values (map : SortedMap κ α) : List α := map.entries.map (·.2)

def size (map : SortedMap κ α) : Nat := map.entries.length

/-- The value in an entry list under the first key that compares equal. -/
def lookup (key : κ) : List (κ × α) → Option α
  | [] => none
  | (other, value) :: rest => if compare key other = .eq then some value else lookup key rest

def get? (map : SortedMap κ α) (key : κ) : Option α := lookup key map.entries

def contains (map : SortedMap κ α) (key : κ) : Bool := (map.get? key).isSome

/-! ## Changing one entry -/

/-- Changes the value under a key of an ascending entry list, or inserts one in its place. -/
def alterEntries (key : κ) (change : Option α → α) : List (κ × α) → List (κ × α)
  | [] => [(key, change none)]
  | (other, value) :: rest =>
    match compare key other with
    | .lt => (key, change none) :: (other, value) :: rest
    | .eq => (other, change (some value)) :: rest
    | .gt => (other, value) :: alterEntries key change rest

theorem key_of_mem_alterEntries {key : κ} {change : Option α → α} {entries : List (κ × α)}
    {entry : κ × α} (h : entry ∈ alterEntries key change entries) :
    entry.1 = key ∨ ∃ old ∈ entries, old.1 = entry.1 := by
  induction entries with
  | nil => simp_all [alterEntries]
  | cons head rest ih =>
    obtain ⟨other, value⟩ := head
    unfold alterEntries at h
    split at h
    · rcases List.mem_cons.1 h with rfl | h
      · exact .inl rfl
      · exact .inr ⟨entry, h, rfl⟩
    · rcases List.mem_cons.1 h with rfl | h
      · exact .inr ⟨(other, value), by simp, rfl⟩
      · exact .inr ⟨entry, by simp [h], rfl⟩
    · rcases List.mem_cons.1 h with rfl | h
      · exact .inr ⟨(other, value), by simp, rfl⟩
      · rcases ih h with h | ⟨old, hold, h⟩
        · exact .inl h
        · exact .inr ⟨old, by simp [hold], h⟩

variable [Std.TransOrd κ]

theorem ascending_alterEntries (key : κ) (change : Option α → α) {entries : List (κ × α)}
    (h : entries.Pairwise fun left right ↦ compare left.1 right.1 = .lt) :
    (alterEntries key change entries).Pairwise
      fun left right ↦ compare left.1 right.1 = .lt := by
  induction entries with
  | nil => simp [alterEntries]
  | cons head rest ih =>
    obtain ⟨other, value⟩ := head
    obtain ⟨hhead, hrest⟩ := List.pairwise_cons.1 h
    unfold alterEntries
    split
    · rename_i hlt
      refine List.pairwise_cons.2 ⟨fun entry hentry ↦ ?_, h⟩
      rcases List.mem_cons.1 hentry with rfl | hentry
      · exact hlt
      · exact Std.TransCmp.lt_trans hlt (hhead entry hentry)
    · exact List.pairwise_cons.2 ⟨hhead, hrest⟩
    · rename_i hgt
      refine List.pairwise_cons.2 ⟨fun entry hentry ↦ ?_, ih hrest⟩
      rcases key_of_mem_alterEntries hentry with hkey | ⟨old, hold, hkey⟩
      · simpa [hkey] using Std.OrientedCmp.gt_iff_lt.1 hgt
      · simpa [hkey] using hhead old hold

/-- Changes the value under a key; `change` sees the present value, if there is one. -/
def alter (map : SortedMap κ α) (key : κ) (change : Option α → α) : SortedMap κ α :=
  ⟨alterEntries key change map.entries, ascending_alterEntries key change map.ascending⟩

/-- Writes a value under a key, in place of a present one. -/
def insert (map : SortedMap κ α) (key : κ) (value : α) : SortedMap κ α :=
  map.alter key fun _ ↦ value

/-- Later pairs win over earlier pairs with the same key. -/
def ofList (pairs : List (κ × α)) : SortedMap κ α :=
  pairs.foldl (fun map pair ↦ map.insert pair.1 pair.2) empty

omit [Std.TransOrd κ] in
theorem ascending_map {entries : List (κ × α)} (f : κ → α → β)
    (h : entries.Pairwise fun left right ↦ compare left.1 right.1 = .lt) :
    (entries.map fun entry ↦ (entry.1, f entry.1 entry.2)).Pairwise
      fun left right ↦ compare left.1 right.1 = .lt :=
  List.pairwise_map.2 (h.imp id)

omit [Std.TransOrd κ] in
/-- Changes every value and no key. -/
def mapValues (map : SortedMap κ α) (f : κ → α → β) : SortedMap κ β :=
  ⟨map.entries.map fun entry ↦ (entry.1, f entry.1 entry.2), ascending_map f map.ascending⟩

end SortedMap

/-- The members of a list without repetition, ascending. -/
def ascendingDistinct {κ : Type} [Ord κ] [Std.TransOrd κ] (members : List κ) : List κ :=
  (SortedMap.ofList (members.map fun member ↦ (member, ()))).keys

end TrialSeries
