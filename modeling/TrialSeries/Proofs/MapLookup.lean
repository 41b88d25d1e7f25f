import Mathlib.Data.List.Induction
import Mathlib.Data.List.Sort
import TrialSeries.SortedMap

/-!
# What is found in a sorted map

The entries of a map are its keys with the values found under them, so two maps are equal as soon as
the same is found in both. Changing the value under a key changes what is found under that key and
nothing else, and a map that is built by such changes is described by what is found in it.
-/

namespace TrialSeries

/-- Two lists in strictly ascending order with the same members are the same list. -/
theorem eq_of_ascending_of_mem_iff {κ : Type} [Ord κ] [Std.TransOrd κ] {left right : List κ}
    (hleft : left.Pairwise fun first second ↦ compare first second = .lt)
    (hright : right.Pairwise fun first second ↦ compare first second = .lt)
    (h : ∀ member, member ∈ left ↔ member ∈ right) : left = right := by
  have : Std.Irrefl fun first second : κ ↦ compare first second = .lt :=
    ⟨fun member ↦ by simp [Std.ReflCmp.compare_self]⟩
  have : Std.Antisymm fun first second : κ ↦ compare first second = .lt :=
    ⟨fun first second hlt hgt ↦ by
      rw [Std.OrientedCmp.gt_iff_lt.2 hlt] at hgt
      cases hgt⟩
  exact hleft.eq_of_mem_iff hright h

/-- A strictly ascending list has no repetition. -/
theorem nodup_of_ascending {κ : Type} [Ord κ] [Std.TransOrd κ] {members : List κ}
    (h : members.Pairwise fun first second ↦ compare first second = .lt) : members.Nodup := by
  apply h.imp
  intro first second hlt heq
  subst heq
  simp [Std.ReflCmp.compare_self] at hlt

namespace SortedMap

variable {κ α β : Type} [Ord κ]

theorem ascending_keys (map : SortedMap κ α) :
    map.keys.Pairwise fun left right ↦ compare left right = .lt :=
  List.pairwise_map.2 map.ascending

theorem keys_eq_nil_iff {map : SortedMap κ α} : map.keys = [] ↔ map.entries = [] :=
  List.map_eq_nil_iff

@[simp] theorem keys_mapValues (map : SortedMap κ α) (f : κ → α → β) :
    (map.mapValues f).keys = map.keys := by
  simp [keys, mapValues, Function.comp_def]

@[simp] theorem get?_empty (key : κ) : (∅ : SortedMap κ α).get? key = none := rfl

/-! ## Entries and lookups -/

section Lookup

variable [Std.LawfulEqOrd κ]

theorem lookup_eq_some_iff {entries : List (κ × α)} {key : κ} {value : α}
    (h : entries.Pairwise fun left right ↦ compare left.1 right.1 = .lt) :
    lookup key entries = some value ↔ (key, value) ∈ entries := by
  induction entries with
  | nil => simp [lookup]
  | cons head rest ih =>
    obtain ⟨other, found⟩ := head
    obtain ⟨hhead, hrest⟩ := List.pairwise_cons.1 h
    by_cases hkey : key = other
    · subst hkey
      have habsent : (key, value) ∉ rest := fun hmem ↦ by
        simpa [Std.ReflCmp.compare_self] using hhead _ hmem
      simp [lookup, habsent, eq_comm]
    · simp [lookup, hkey, ih hrest]

theorem get?_eq_some_iff {map : SortedMap κ α} {key : κ} {value : α} :
    map.get? key = some value ↔ (key, value) ∈ map.entries :=
  lookup_eq_some_iff map.ascending

theorem mem_keys_iff {map : SortedMap κ α} {key : κ} :
    key ∈ map.keys ↔ ∃ value, map.get? key = some value := by
  simp [keys, get?_eq_some_iff]

theorem mem_values_iff {map : SortedMap κ α} {value : α} :
    value ∈ map.values ↔ ∃ key, map.get? key = some value := by
  simp [values, get?_eq_some_iff]

theorem contains_iff {map : SortedMap κ α} {key : κ} : map.contains key = true ↔ key ∈ map.keys := by
  rw [contains, Option.isSome_iff_exists, mem_keys_iff]

/-- Walking over the values is walking over the keys and looking each of them up. -/
theorem map_values {map : SortedMap κ α} {f : α → β} {g : κ → β}
    (h : ∀ key value, map.get? key = some value → f value = g key) :
    map.values.map f = map.keys.map g := by
  rw [values, keys, List.map_map, List.map_map]
  exact List.map_congr_left fun entry hentry ↦ h entry.1 entry.2 (get?_eq_some_iff.2 hentry)

theorem get?_mapValues (map : SortedMap κ α) (f : κ → α → β) (key : κ) :
    (map.mapValues f).get? key = (map.get? key).map (f key) := by
  rw [Option.ext_iff]
  intro found
  simp only [get?_eq_some_iff, mapValues, List.mem_map, Prod.mk.injEq, Option.map_eq_some_iff]
  constructor
  · intro h
    rcases h with ⟨entry, hentry, rfl, rfl⟩
    exact ⟨entry.2, hentry, rfl⟩
  · intro h
    rcases h with ⟨value, hvalue, rfl⟩
    exact ⟨(key, value), hvalue, rfl, rfl⟩

theorem lookup_alterEntries_of_ne {key other : κ} (hne : other ≠ key) (change : Option α → α)
    (entries : List (κ × α)) :
    lookup other (alterEntries key change entries) = lookup other entries := by
  induction entries with
  | nil => simp [alterEntries, lookup, hne]
  | cons head rest ih =>
    obtain ⟨first, value⟩ := head
    simp only [alterEntries]
    split
    · simp [lookup, hne]
    · rename_i heq
      obtain rfl := Std.LawfulEqCmp.eq_of_compare heq
      simp [lookup, hne]
    · simp [lookup, ih]

end Lookup

/-! ## Changes -/

section Changes

variable [Std.TransOrd κ]

theorem nodup_keys (map : SortedMap κ α) : map.keys.Nodup := nodup_of_ascending map.ascending_keys

/-- A key behind all others gets its entry at the end. -/
theorem alterEntries_of_forall_lt {key : κ} {change : Option α → α} {entries : List (κ × α)}
    (h : ∀ entry ∈ entries, compare entry.1 key = .lt) :
    alterEntries key change entries = entries ++ [(key, change none)] := by
  induction entries with
  | nil => rfl
  | cons head rest ih =>
    obtain ⟨hhead, hrest⟩ := List.forall_mem_cons.1 h
    rw [alterEntries, Std.OrientedCmp.gt_iff_lt.2 hhead]
    simp [ih hrest]

theorem ofList_append_singleton (pairs : List (κ × α)) (key : κ) (value : α) :
    ofList (pairs ++ [(key, value)]) = (ofList pairs).insert key value := by
  simp [ofList]

/-- A map is the map of its entries. -/
theorem ofList_entries (map : SortedMap κ α) : ofList map.entries = map := by
  have hpairs (pairs : List (κ × α))
      (h : pairs.Pairwise fun left right ↦ compare left.1 right.1 = .lt) :
      (ofList pairs).entries = pairs := by
    induction pairs using List.reverseRec with
    | nil => rfl
    | append_singleton front last ih =>
      obtain ⟨hfront, -, hlast⟩ := List.pairwise_append.1 h
      rw [ofList_append_singleton, insert, alter]
      dsimp only
      rw [ih hfront]
      apply alterEntries_of_forall_lt
      intro entry hentry
      exact hlast entry hentry last List.mem_cons_self
  exact ext (hpairs map.entries map.ascending)

variable [Std.LawfulEqOrd κ]

theorem ext_get? {left right : SortedMap κ α} (h : ∀ key, left.get? key = right.get? key) :
    left = right := by
  have hkeys : left.keys = right.keys :=
    eq_of_ascending_of_mem_iff left.ascending_keys right.ascending_keys fun key ↦ by
      rw [mem_keys_iff, mem_keys_iff, h]
  have hpairs (map : SortedMap κ α) :
      map.entries.map (fun entry ↦ (entry.1, some entry.2)) =
        map.keys.map fun key ↦ (key, map.get? key) := by
    rw [keys, List.map_map]
    apply List.map_congr_left
    intro entry hentry
    rw [Function.comp_apply, get?_eq_some_iff.2 hentry]
  have hinjective : Function.Injective fun entry : κ × α ↦ (entry.1, some entry.2) := by
    intro left right heq
    simpa [Prod.ext_iff] using heq
  apply ext
  apply hinjective.list_map
  rw [hpairs, hpairs, hkeys, funext h]

theorem lookup_alterEntries_self (key : κ) (change : Option α → α) {entries : List (κ × α)}
    (h : entries.Pairwise fun left right ↦ compare left.1 right.1 = .lt) :
    lookup key (alterEntries key change entries) = some (change (lookup key entries)) := by
  induction entries with
  | nil => simp [alterEntries, lookup]
  | cons head rest ih =>
    obtain ⟨other, value⟩ := head
    obtain ⟨hhead, hrest⟩ := List.pairwise_cons.1 h
    simp only [alterEntries]
    split
    · rename_i hlt
      have habsent : lookup key ((other, value) :: rest) = none := by
        rw [Option.eq_none_iff_forall_ne_some]
        intro found hfound
        rcases List.mem_cons.1 ((lookup_eq_some_iff h).1 hfound) with heq | hmem
        · cases heq
          simp [Std.ReflCmp.compare_self] at hlt
        · simpa [Std.ReflCmp.compare_self] using Std.TransCmp.lt_trans hlt (hhead _ hmem)
      rw [habsent]
      simp [lookup]
    · rename_i heq
      simp [lookup, heq]
    · rename_i hgt
      simp [lookup, hgt, ih hrest]

theorem get?_alter [DecidableEq κ] (map : SortedMap κ α) (key other : κ)
    (change : Option α → α) :
    (map.alter key change).get? other =
      if other = key then some (change (map.get? key)) else map.get? other := by
  by_cases hkey : other = key
  · subst hkey
    rw [if_pos rfl]
    exact lookup_alterEntries_self other change map.ascending
  · rw [if_neg hkey]
    exact lookup_alterEntries_of_ne hkey change map.entries

theorem mem_keys_alter {map : SortedMap κ α} {key other : κ} {change : Option α → α} :
    other ∈ (map.alter key change).keys ↔ other = key ∨ other ∈ map.keys := by
  classical
  rw [mem_keys_iff, mem_keys_iff, get?_alter]
  by_cases hkey : other = key <;> simp [hkey]

/-- A table of a function on some keys holds the value of the function at each of them. -/
theorem get?_ofList_map [DecidableEq κ] (keys : List κ) (f : κ → α) (key : κ) :
    (ofList (keys.map fun key ↦ (key, f key))).get? key =
      if key ∈ keys then some (f key) else none := by
  induction keys using List.reverseRec with
  | nil => rfl
  | append_singleton keys last ih =>
    rw [List.map_append, List.map_singleton, ofList_append_singleton, insert, get?_alter, ih]
    by_cases hkey : key = last <;> simp [hkey]

end Changes

end SortedMap

/-! ## Lists without repetition -/

section Distinct

variable {κ : Type} [Ord κ] [Std.TransOrd κ]

theorem pairwise_ascendingDistinct (members : List κ) :
    (ascendingDistinct members).Pairwise fun left right ↦ compare left right = .lt :=
  SortedMap.ascending_keys _

variable [Std.LawfulEqOrd κ]

theorem mem_ascendingDistinct {members : List κ} {member : κ} :
    member ∈ ascendingDistinct members ↔ member ∈ members := by
  classical
  rw [ascendingDistinct, SortedMap.mem_keys_iff,
    SortedMap.get?_ofList_map members fun _ ↦ ()]
  by_cases hmem : member ∈ members <;> simp [hmem]

/-- The members of a list without repetition do not depend on their order or number in the list. -/
theorem ascendingDistinct_congr {left right : List κ}
    (h : ∀ member, member ∈ left ↔ member ∈ right) :
    ascendingDistinct left = ascendingDistinct right :=
  eq_of_ascending_of_mem_iff (pairwise_ascendingDistinct left) (pairwise_ascendingDistinct right)
    fun member ↦ by rw [mem_ascendingDistinct, mem_ascendingDistinct, h]

end Distinct

end TrialSeries
