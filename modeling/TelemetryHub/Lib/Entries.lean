import TelemetryHub.Lib.Dict

/-!
# The entries of a map, in their order

What a write does to the list of the entries: a key that is there keeps its place, and the
values that a predicate tells apart from the one that is written stay as they are.
-/

namespace TelemetryHub.Lib.Dict

variable {K V : Type}

theorem values_eq_map_toPairs (m : Dict K V) : m.values = m.toPairs.map Prod.snd := by
  rw [values, toPairs, List.map_map]
  rfl

theorem toPairs_retain (m : Dict K V) (p : K → V → Bool) :
    (m.retain p).toPairs = m.toPairs.filter fun e => p e.1 e.2 := by
  simp only [toPairs, retain, List.filter_map]
  rfl

variable [DecidableEq K]

theorem toPairs_replace (m : Dict K V) (k : K) (v : V) :
    (m.replace k v).toPairs = m.toPairs.map fun e => if e.1 = k then (k, v) else e := by
  simp only [toPairs, replace, List.map_map]
  apply List.map_congr_left
  intro e _
  by_cases here : e.1 = k
  · simp [here]
  · simp [here]

theorem toPairs_add {m : Dict K V} {k : K} (absent : m.contains k = false) (v : V) :
    (m.add k v).toPairs = (k, v) :: m.toPairs := by
  have missing : k ∉ AList.keys m := by
    rw [contains_eq_false] at absent
    exact AList.lookup_eq_none.1 absent
  simp only [toPairs, add]
  rw [AList.entries_insert_of_notMem missing]
  rfl

/-- A key that is there keeps its place. -/
theorem toPairs_insert_present {m : Dict K V} {k : K} {old : V} {front back : List (K × V)}
    (h : m.toPairs = front ++ (k, old) :: back) (v : V) : (m.insert k v).toPairs = front ++ (k, v) :: back := by
  have nodup := m.nodup_toPairs
  rw [h, List.map_append, List.map_cons, List.nodup_append] at nodup
  have present : m.contains k := contains_iff.2 ⟨old, mem_toPairs.1 (by simp [h])⟩
  rw [insert, if_pos present, toPairs_replace, h, List.map_append, List.map_cons, if_pos rfl]
  have elsewhere : ∀ part : List (K × V), (∀ e ∈ part, e.1 ≠ k) →
      part.map (fun e => if e.1 = k then (k, v) else e) = part := by
    intro part other
    apply (List.map_congr_left fun e mem => if_neg (other e mem)).trans
    exact List.map_id _
  rw [elsewhere front, elsewhere back]
  · rintro e mem rfl
    exact (List.nodup_cons.1 nodup.2.1).1 (List.mem_map.2 ⟨e, mem, rfl⟩)
  · rintro e mem rfl
    exact nodup.2.2 e.1 (List.mem_map_of_mem mem) e.1 List.mem_cons_self rfl

/-- What is put under a new key stands first. -/
theorem values_insert_absent {m : Dict K V} {k : K} (absent : m.get k = none) (v : V) :
    (m.insert k v).values = v :: m.values := by
  have missing : m.contains k = false := contains_eq_false.2 absent
  rw [values_eq_map_toPairs, values_eq_map_toPairs, insert, if_neg (by simp [missing]), toPairs_add missing, List.map_cons]

section Filters

variable {m : Dict K V} {k : K} {p : V → Bool}

/-- A value that is not looked for is written where none that is stands. -/
theorem filter_values_insert {v : V} (new : p v = false) (old : ∀ v', m.get k = some v' → p v' = false) :
    (m.insert k v).values.filter p = m.values.filter p := by
  rw [values_eq_map_toPairs, values_eq_map_toPairs]
  cases present : m.contains k with
  | false =>
    rw [insert, if_neg (by simp [present]), toPairs_add present, List.map_cons, List.filter_cons_of_neg (by simp [new])]
  | true =>
    obtain ⟨v', stored⟩ := contains_iff.1 present
    obtain ⟨front, back, split⟩ := List.append_of_mem (mem_toPairs.2 stored)
    rw [toPairs_insert_present split, split]
    simp [new, old v' stored]

/-- What is written over a value that is looked for alike does not change how many there are. -/
theorem length_filter_values_insert {v old : V} (stored : m.get k = some old) (same : p v = p old) :
    ((m.insert k v).values.filter p).length = (m.values.filter p).length := by
  obtain ⟨front, back, split⟩ := List.append_of_mem (mem_toPairs.2 stored)
  rw [values_eq_map_toPairs, values_eq_map_toPairs, toPairs_insert_present split, split]
  simp only [List.map_append, List.map_cons, List.filter_append, List.length_append, List.filter_cons, same]
  split
  · rw [List.length_cons, List.length_cons]
  · rfl

/-- What one key alone has is there once. -/
theorem filter_values_single {v : V} (stored : m.get k = some v) (looked : p v = true)
    (only : ∀ k' v', m.get k' = some v' → p v' = true → k' = k) : m.values.filter p = [v] := by
  obtain ⟨front, back, split⟩ := List.append_of_mem (mem_toPairs.2 stored)
  have nodup := m.nodup_toPairs
  rw [split, List.map_append, List.map_cons, List.nodup_append, List.nodup_cons] at nodup
  have elsewhere : ∀ e ∈ front ++ back, p e.2 = false := by
    intro e mem
    rw [Bool.eq_false_iff]
    intro looked'
    have there : e ∈ m.toPairs := by
      rw [split]
      exact (List.mem_append.1 mem).elim (List.mem_append_left _) fun mem => List.mem_append_right _ (List.mem_cons_of_mem _ mem)
    have same : e.1 = k := only e.1 e.2 (mem_toPairs.1 there) looked'
    rcases List.mem_append.1 mem with mem | mem
    · exact nodup.2.2 e.1 (List.mem_map_of_mem mem) e.1 (same ▸ List.mem_cons_self) rfl
    · exact nodup.2.1.1 (List.mem_map.2 ⟨e, mem, same⟩)
  have none : ∀ part : List (K × V), (∀ e ∈ part, p e.2 = false) → (part.map Prod.snd).filter p = [] := by
    intro part idle
    rw [List.filter_eq_nil_iff]
    intro v' mem
    obtain ⟨e, there, rfl⟩ := List.mem_map.1 mem
    simp [idle e there]
  rw [values_eq_map_toPairs, split, List.map_append, List.map_cons, List.filter_append, List.filter_cons, if_pos looked,
    none front fun e mem => elsewhere e (List.mem_append_left _ mem), none back fun e mem => elsewhere e (List.mem_append_right _ mem)]
  rfl

/-- What is not looked for may go. -/
theorem filter_values_remove (old : ∀ v, m.get k = some v → p v = false) :
    (m.remove k).values.filter p = m.values.filter p := by
  by_cases present : k ∈ (AList.entries m).keys
  · obtain ⟨v, front, back, _, split, erased⟩ := List.exists_of_kerase present
    have stored : m.get k = some v := get_eq_some_iff.2 (by simp [split])
    have entries : AList.entries (m.remove k) = front ++ back := erased
    simp [values, split, entries, old v stored]
  · have entries : AList.entries (m.remove k) = AList.entries m := List.kerase_of_notMem_keys present
    rw [values, values, entries]

theorem filter_values_retain {q : K → V → Bool} (kept : ∀ k v, m.get k = some v → p v → q k v) :
    (m.retain q).values.filter p = m.values.filter p := by
  rw [values_eq_map_toPairs, values_eq_map_toPairs, toPairs_retain, List.filter_map, List.filter_map, List.filter_filter]
  congr 1
  apply List.filter_congr
  rintro ⟨k', v⟩ mem
  cases looked : p v with
  | false => simp [looked]
  | true => simp [looked, kept k' v (mem_toPairs.1 mem) looked]

end Filters

end TelemetryHub.Lib.Dict
