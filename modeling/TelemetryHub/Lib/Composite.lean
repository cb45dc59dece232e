import TelemetryHub.Lib.Dict

/-!
# Records under composite keys

A table files each record under a key made of some part of it. Where the key is injective
in the part no two parts share a place; where it is not, a record can be filed over another
one.
-/

namespace TelemetryHub.Lib

variable {K V P ε : Type} [DecidableEq K] [DecidableEq P] (part : V → P) (key : P → K)

/-- Each record is where its part says. -/
def Filed (m : Dict K V) : Prop := ∀ k v, m.get k = some v → k = key (part v)

/-- The record of a part. -/
def filedUnder (m : Dict K V) (p : P) : Option V := m.values.find? fun v => part v = p

/-- A table from its records. -/
def refile (records : List V) : Dict K V := records.foldl (fun m v => m.insert (key (part v)) v) ∅

/-- A table from its records, each brought to a normal form, none filed twice. -/
def fileAll (normal : V → Except ε V) (duplicate : V → ε) (records : List V) : Except ε (Dict K V) :=
  records.foldlM (fun m v => do
    let v ← normal v
    if m.contains (key (part v)) then throw (duplicate v)
    return m.insert (key (part v)) v) ∅

variable {part : V → P} {key : P → K} {m : Dict K V}

namespace Filed

omit [DecidableEq P] in
theorem empty : Filed part key (∅ : Dict K V) := fun k _ stored => absurd ((Dict.get_empty k).symm.trans stored) nofun

omit [DecidableEq P] in
theorem insert (h : Filed part key m) (v : V) : Filed part key (m.insert (key (part v)) v) := by
  intro k u stored
  rw [Dict.get_insert] at stored
  split at stored
  · rename_i same
    rw [same, Option.some.inj stored]
  · exact h k u stored

omit [DecidableEq P] in
theorem retain (h : Filed part key m) (p : K → V → Bool) : Filed part key (m.retain p) := by
  intro k v stored
  rw [Dict.get_retain] at stored
  exact h k v (Option.filter_eq_some_iff.1 stored).1

omit [DecidableEq P] in
theorem remove (h : Filed part key m) (k : K) : Filed part key (m.remove k) := by
  intro k' v stored
  rw [Dict.get_remove] at stored
  split at stored
  · cases stored
  · exact h k' v stored

omit [DecidableEq P] in
/-- Two records with one key are one. -/
theorem unique (h : Filed part key m) {u v : V} (first : u ∈ m.values) (second : v ∈ m.values)
    (same : key (part u) = key (part v)) : u = v := by
  obtain ⟨k, hu⟩ := Dict.mem_values.1 first
  obtain ⟨k', hv⟩ := Dict.mem_values.1 second
  rw [h k u hu, same, ← h k' v hv, hv] at hu
  exact (Option.some.inj hu).symm

/-- The record of a part is at its key, if it is that record. -/
theorem filedUnder_eq_some (h : Filed part key m) {p : P} {v : V} :
    filedUnder part m p = some v ↔ m.get (key p) = some v ∧ part v = p := by
  constructor
  · intro found
    have same : part v = p := by simpa using List.find?_some found
    obtain ⟨k, stored⟩ := Dict.mem_values.1 (List.mem_of_find?_eq_some found)
    rw [h k v stored, same] at stored
    exact ⟨stored, same⟩
  · rintro ⟨stored, rfl⟩
    have mem : v ∈ m.values := Dict.mem_values.2 ⟨_, stored⟩
    cases found : filedUnder part m (part v) with
    | none => exact absurd (List.find?_eq_none.1 found v mem) (by simp)
    | some u =>
      have same : part u = part v := by simpa using List.find?_some found
      rw [h.unique (List.mem_of_find?_eq_some found) mem (congrArg key same)]

theorem filedUnder_insert_self (h : Filed part key m) (v : V) :
    filedUnder part (m.insert (key (part v)) v) (part v) = some v :=
  (h.insert v).filedUnder_eq_some.2 ⟨Dict.get_insert_self m _ v, rfl⟩

/-- Another part keeps its record exactly if it has none at the key that is written. -/
theorem filedUnder_insert (h : Filed part key m) {v : V} {p : P} (other : p ≠ part v) :
    filedUnder part (m.insert (key (part v)) v) p = filedUnder part m p ↔
      (key p = key (part v) → filedUnder part m p = none) := by
  by_cases same : key p = key (part v)
  · have gone : filedUnder part (m.insert (key (part v)) v) p = none := by
      cases found : filedUnder part (m.insert (key (part v)) v) p with
      | none => rfl
      | some u =>
        obtain ⟨stored, own⟩ := (h.insert v).filedUnder_eq_some.1 found
        rw [same, Dict.get_insert_self] at stored
        exact absurd (own.symm.trans (congrArg part (Option.some.inj stored).symm)) other
    rw [gone]
    exact ⟨fun kept _ => kept.symm, fun none => (none same).symm⟩
  · refine iff_of_true (Option.ext fun u => ?_) fun clash => absurd clash same
    rw [(h.insert v).filedUnder_eq_some, h.filedUnder_eq_some, Dict.get_insert_ne same]

theorem filedUnder_remove (h : Filed part key m) {k : K} {p : P} (other : key p ≠ k) :
    filedUnder part (m.remove k) p = filedUnder part m p := by
  refine Option.ext fun u => ?_
  rw [(h.remove k).filedUnder_eq_some, h.filedUnder_eq_some, Dict.get_remove, if_neg other]

/-! ## Filing anew -/

omit [DecidableEq P] in
/-- What a table holds after some records: each under its key, and every key of theirs. -/
theorem foldl_insert (h : Filed part key m) (records : List V) :
    Filed part key (records.foldl (fun m v => m.insert (key (part v)) v) m) ∧
      (∀ k v, (records.foldl (fun m v => m.insert (key (part v)) v) m).get k = some v → v ∈ records ∨ m.get k = some v) ∧
      ∀ k, (∃ v ∈ records, key (part v) = k) ∨ m.contains k = true →
        (records.foldl (fun m v => m.insert (key (part v)) v) m).contains k = true := by
  induction records generalizing m with
  | nil =>
    refine ⟨h, fun k v stored => .inr stored, ?_⟩
    rintro k (⟨v, mem, -⟩ | has)
    · exact absurd mem List.not_mem_nil
    · exact has
  | cons v records ih =>
    obtain ⟨filed, from_, has⟩ := ih (h.insert v)
    refine ⟨filed, fun k u stored => ?_, fun k known => has k ?_⟩
    · rcases from_ k u stored with mem | stored
      · exact .inl (List.mem_cons_of_mem _ mem)
      · rw [Dict.get_insert] at stored
        split at stored
        · rw [← Option.some.inj stored]
          exact .inl List.mem_cons_self
        · exact .inr stored
    · rw [Dict.contains_insert]
      rcases known with ⟨u, mem, same⟩ | known
      · rcases List.mem_cons.1 mem with rfl | mem
        · exact .inr (.inl same.symm)
        · exact .inl ⟨u, mem, same⟩
      · exact .inr (.inr known)

omit [DecidableEq P] in
/-- The records of a table, filed anew, are the table. -/
theorem refile_get (h : Filed part key m) (records : List V) (all : ∀ v, v ∈ records ↔ v ∈ m.values) (k : K) :
    (refile part key records).get k = m.get k := by
  have none : Filed part key (∅ : Dict K V) := empty
  obtain ⟨filed, from_, has⟩ := none.foldl_insert records
  have back : ∀ v, (refile part key records).get k = some v → m.get k = some v := by
    intro v stored
    rcases from_ k v stored with mem | stored'
    · obtain ⟨k', there⟩ := Dict.mem_values.1 ((all v).1 mem)
      rw [h k' v there, ← filed k v stored] at there
      exact there
    · exact absurd ((Dict.get_empty k).symm.trans stored') nofun
  cases stored : m.get k with
  | some v =>
    obtain ⟨u, there⟩ := Dict.contains_iff.1
      (has k (.inl ⟨v, (all v).2 (Dict.mem_values.2 ⟨k, stored⟩), (h k v stored).symm⟩))
    have same := back u there
    rw [stored] at same
    rw [Option.some.inj same]
    exact there
  | none =>
    cases there : (refile part key records).get k with
    | none => rfl
    | some u =>
      have := back u there
      rw [stored] at this
      exact absurd this nofun

omit [DecidableEq P] in
theorem refile (records : List V) : Filed part key (Lib.refile part key records) := (empty.foldl_insert records).1

/-- Filed anew, each part has the record it had. -/
theorem filedUnder_refile (h : Filed part key m) (records : List V) (all : ∀ v, v ∈ records ↔ v ∈ m.values) (p : P) :
    filedUnder part (Lib.refile part key records) p = filedUnder part m p := by
  refine Option.ext fun v => ?_
  rw [(refile records).filedUnder_eq_some, h.filedUnder_eq_some, h.refile_get records all]

omit [DecidableEq P] in
theorem nodup_keys (h : Filed part key m) : (m.values.map fun v => key (part v)).Nodup := by
  have same : m.values.map (fun v => key (part v)) = m.toPairs.map Prod.fst := by
    rw [Dict.values, Dict.toPairs, List.map_map, List.map_map]
    refine List.map_congr_left fun e mem => ?_
    exact (h e.1 e.2 (Dict.get_eq_some_iff.2 mem)).symm
  rw [same]
  exact m.nodup_toPairs

omit [DecidableEq P] in
/-- Records in normal form with keys of their own are all filed. -/
theorem fileAll_eq {normal : V → Except ε V} {duplicate : V → ε} {records : List V}
    (normals : ∀ v ∈ records, normal v = .ok v) (nodup : (records.map fun v => key (part v)).Nodup) :
    fileAll part key normal duplicate records = .ok (Lib.refile part key records) := by
  suffices step : ∀ m : Dict K V, (∀ v ∈ records, m.contains (key (part v)) = false) →
      records.foldlM (fun m v => do
        let v ← normal v
        if m.contains (key (part v)) then throw (duplicate v)
        return m.insert (key (part v)) v) m = .ok (records.foldl (fun m v => m.insert (key (part v)) v) m) from
    step ∅ fun v _ => Dict.contains_eq_false.2 (Dict.get_empty _)
  induction records with
  | nil => exact fun m _ => rfl
  | cons v records ih =>
    intro m free
    rw [List.map_cons, List.nodup_cons] at nodup
    have later := ih (fun u mem => normals u (List.mem_cons_of_mem _ mem)) nodup.2 (m.insert (key (part v)) v) (by
      intro u mem
      have other : key (part u) ≠ key (part v) := fun same => nodup.1 (List.mem_map.2 ⟨u, mem, same⟩)
      rw [Dict.contains_eq_false, Dict.get_insert_ne other]
      exact Dict.contains_eq_false.1 (free u (List.mem_cons_of_mem _ mem)))
    rw [List.foldlM_cons, normals v List.mem_cons_self]
    simp only [bind, Except.bind, free v List.mem_cons_self, Bool.false_eq_true, if_false, pure, Except.pure]
    exact later

end Filed
end TelemetryHub.Lib
