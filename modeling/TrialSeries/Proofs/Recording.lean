import TrialSeries.Block
import TrialSeries.Proofs.MapLookup

/-!
# Recording values in a block

Recording values under a name puts them after the present values of that name and touches no other
name. What is recorded in many steps is therefore the concatenation, name by name.
-/

namespace TrialSeries

namespace Block

@[simp] theorem axis_record (block : Block) (name : String) (values : List Binary64) :
    (block.record name values).axis = block.axis := rfl

theorem valuesOf_record (block : Block) (name other : String) (values : List Binary64) :
    (block.record name values).valuesOf other =
      block.valuesOf other ++ if other = name then values else [] := by
  simp only [valuesOf, record, SortedMap.get?_alter]
  by_cases hname : other = name
  · simp [hname]
  · simp [hname]

theorem mem_keys_record {block : Block} {name other : String} {values : List Binary64} :
    other ∈ (block.record name values).metrics.keys ↔
      other = name ∨ other ∈ block.metrics.keys :=
  SortedMap.mem_keys_alter

/-! ## Recording step by step -/

/-- Records readings, each of them values under a name, one after the other. -/
def recordAll (block : Block) (readings : List (String × List Binary64)) : Block :=
  readings.foldl (fun block reading ↦ block.record reading.1 reading.2) block

@[simp] theorem recordAll_nil (block : Block) : block.recordAll [] = block := rfl

@[simp] theorem recordAll_cons (block : Block) (reading : String × List Binary64)
    (readings : List (String × List Binary64)) :
    block.recordAll (reading :: readings) =
      (block.record reading.1 reading.2).recordAll readings := rfl

theorem recordAll_append (block : Block) (readings others : List (String × List Binary64)) :
    block.recordAll (readings ++ others) = (block.recordAll readings).recordAll others :=
  List.foldl_append

@[simp] theorem axis_recordAll (block : Block) (readings : List (String × List Binary64)) :
    (block.recordAll readings).axis = block.axis := by
  induction readings generalizing block with
  | nil => rfl
  | cons reading readings ih => rw [recordAll_cons, ih, axis_record]

theorem valuesOf_recordAll (block : Block) (readings : List (String × List Binary64))
    (name : String) :
    (block.recordAll readings).valuesOf name =
      block.valuesOf name ++ (readings.filter (·.1 = name)).flatMap (·.2) := by
  induction readings generalizing block with
  | nil => simp
  | cons reading readings ih =>
    calc
      (block.recordAll (reading :: readings)).valuesOf name =
          (block.record reading.1 reading.2).valuesOf name ++
            (readings.filter (·.1 = name)).flatMap (·.2) := ih _
      _ = block.valuesOf name ++ ((if name = reading.1 then reading.2 else []) ++
            (readings.filter (·.1 = name)).flatMap (·.2)) := by
        rw [valuesOf_record, List.append_assoc]
      _ = block.valuesOf name ++ ((reading :: readings).filter (·.1 = name)).flatMap (·.2) := by
        by_cases hname : reading.1 = name
        · simp [hname]
        · simp [hname, Ne.symm hname]

theorem mem_keys_recordAll {block : Block} {readings : List (String × List Binary64)}
    {name : String} :
    name ∈ (block.recordAll readings).metrics.keys ↔
      name ∈ block.metrics.keys ∨ ∃ reading ∈ readings, reading.1 = name := by
  induction readings generalizing block with
  | nil => simp
  | cons reading readings ih =>
    rw [recordAll_cons, ih, mem_keys_record, List.exists_mem_cons_iff]
    tauto

/-! ## Recording a whole map -/

/-- Recording the entries of a map one after the other gives a block with that map. -/
theorem recordAll_entries (axis : Axis) (metrics : Metrics) :
    (start axis).recordAll metrics.entries = ⟨axis, metrics⟩ := by
  obtain ⟨entries, hascending⟩ := metrics
  induction entries using List.reverseRec with
  | nil => rfl
  | append_singleton entries last ih =>
    obtain ⟨hentries, -, hlast⟩ := List.pairwise_append.1 hascending
    have hbehind : ∀ entry ∈ entries, compare entry.1 last.1 = .lt := fun entry hentry ↦
      hlast entry hentry last List.mem_cons_self
    calc
      (start axis).recordAll (entries ++ [last]) =
          ((start axis).recordAll entries).record last.1 last.2 :=
        recordAll_append _ entries [last]
      _ = record ⟨axis, ⟨entries, hentries⟩⟩ last.1 last.2 := by
        rw [ih hentries]
      _ = ⟨axis, ⟨entries ++ [last], hascending⟩⟩ := by
        simp [record, SortedMap.alter, SortedMap.alterEntries_of_forall_lt hbehind]

end Block

end TrialSeries
