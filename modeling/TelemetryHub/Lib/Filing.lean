import TelemetryHub.Lib.Composite
import TelemetryHub.Lib.Proc

/-!
# Tables from lists

What a table built anew from a list of its records holds, where not every record has a key,
and where a key has several values.
-/

namespace TelemetryHub.Lib

variable {K V P : Type} [DecidableEq K]

namespace Filed

variable {part : V → P} {key : P → K} {m : Dict K V}

theorem put (h : Filed part key m) {k : K} {v : V} (own : k = key (part v)) : Filed part key (m.insert k v) := by
  subst own
  exact h.insert v

/-- A record filed again under the key it was found with. -/
theorem putBack (h : Filed part key m) {k : K} {old v : V} (stored : m.get k = some old) (same : part v = part old) :
    Filed part key (m.insert k v) := h.put (by rw [same]; exact h k old stored)

theorem mapValues (h : Filed part key m) {f : V → V} (same : ∀ v, part (f v) = part v) : Filed part key (m.mapValues f) := by
  intro k v stored
  rw [Dict.get_mapValues, Option.map_eq_some_iff] at stored
  obtain ⟨old, stored, rfl⟩ := stored
  rw [same]
  exact h k old stored

end Filed

/-- Where all of the records are filed and each is in normal form, they are filed as they are. -/
theorem fileAll_ok {ε : Type} {part : V → P} {key : P → K} {normal : V → Except ε V} {duplicate : V → ε} {records : List V}
    (normals : ∀ v ∈ records, normal v = .ok v) {filed : Dict K V}
    (accepted : fileAll part key normal duplicate records = .ok filed) : filed = refile part key records := by
  suffices step : ∀ m : Dict K V, records.foldlM (fun m v => do
      let v ← normal v
      if m.contains (key (part v)) then throw (duplicate v)
      return m.insert (key (part v)) v) m = .ok filed → filed = records.foldl (fun m v => m.insert (key (part v)) v) m from
    step ∅ accepted
  clear accepted
  induction records with
  | nil => exact fun m accepted => (Except.ok.inj accepted).symm
  | cons v records ih =>
    intro m accepted
    rw [List.foldlM_cons, normals v List.mem_cons_self] at accepted
    obtain ⟨m', first, rest⟩ := bind_eq_ok.1 accepted
    rw [List.foldl_cons]
    cases taken : m.contains (key (part v)) with
    | true =>
      simp only [bind, Except.bind, taken, if_true] at first
      exact absurd first error_ne_ok
    | false =>
      simp only [bind, Except.bind, taken, Bool.false_eq_true, if_false] at first
      rw [Except.ok.inj first]
      exact ih (fun u mem => normals u (List.mem_cons_of_mem _ mem)) m' rest

/-! ## Records without a key -/

/-- A table from the records that have a key. -/
def refileSome (key : V → Option K) (records : List V) : Dict K V :=
  records.foldl (fun m v =>
    match key v with
    | some k => m.insert k v
    | none => m) ∅

/-- Each record is where its own key says. -/
def FiledBy (key : V → Option K) (m : Dict K V) : Prop := ∀ k v, m.get k = some v → key v = some k

namespace FiledBy

variable {key : V → Option K} {m : Dict K V}

theorem empty : FiledBy key (∅ : Dict K V) := fun k _ stored => absurd ((Dict.get_empty k).symm.trans stored) nofun

theorem insert (h : FiledBy key m) {k : K} {v : V} (own : key v = some k) : FiledBy key (m.insert k v) := by
  intro k' u stored
  rw [Dict.get_insert] at stored
  split at stored
  · rename_i same
    rw [← Option.some.inj stored, same]
    exact own
  · exact h k' u stored

theorem remove (h : FiledBy key m) (k : K) : FiledBy key (m.remove k) := by
  intro k' v stored
  rw [Dict.get_remove] at stored
  split at stored
  · cases stored
  · exact h k' v stored

/-- With a key for those without one the table is filed by a part of each record. -/
theorem filed (h : FiledBy key m) (default : K) : Filed (fun v => (key v).getD default) id m := by
  intro k v stored
  show k = (key v).getD default
  rw [h k v stored]
  rfl

theorem refileSome_eq {records : List V} (keyed : ∀ v ∈ records, (key v).isSome) (default : K) :
    refileSome key records = refile (fun v => (key v).getD default) id records := by
  suffices step : ∀ m : Dict K V,
      records.foldl (fun m v =>
        match key v with
        | some k => m.insert k v
        | none => m) m = records.foldl (fun m v => m.insert (id ((key v).getD default)) v) m from step ∅
  induction records with
  | nil => exact fun m => rfl
  | cons v records ih =>
    intro m
    obtain ⟨k, own⟩ := Option.isSome_iff_exists.1 (keyed v List.mem_cons_self)
    rw [List.foldl_cons, List.foldl_cons, own]
    exact ih (fun u mem => keyed u (List.mem_cons_of_mem _ mem)) _

/-- The records of a table, filed anew, are the table. -/
theorem refileSome_get (h : FiledBy key m) (records : List V) (all : ∀ v, v ∈ records ↔ v ∈ m.values) (k : K) :
    (refileSome key records).get k = m.get k := by
  have keyed : ∀ v ∈ records, (key v).isSome := by
    intro v mem
    obtain ⟨k', stored⟩ := Dict.mem_values.1 ((all v).1 mem)
    rw [h k' v stored]
    rfl
  rw [refileSome_eq keyed k]
  exact (h.filed k).refile_get records all k

end FiledBy

/-! ## Several values under a key -/

variable [DecidableEq V]

/-- The value is among those of the key. -/
def Holds (m : Dict K (HSet V)) (k : K) (v : V) : Prop := ∃ held, m.get k = some held ∧ v ∈ held

/-- One more value under a key. -/
def addValue (m : Dict K (HSet V)) (e : K × V) : Dict K (HSet V) := m.insert e.1 (((m.get e.1).getD ∅).insert e.2)

/-- The values of each key. -/
def gather (entries : List (K × V)) : Dict K (HSet V) := entries.foldl addValue ∅

theorem holds_addValue {m : Dict K (HSet V)} {e : K × V} {k : K} {v : V} :
    Holds (addValue m e) k v ↔ (k, v) = e ∨ Holds m k v := by
  unfold Holds addValue
  rw [Dict.get_insert]
  by_cases here : k = e.1
  · subst here
    rw [if_pos rfl]
    constructor
    · rintro ⟨held, same, mem⟩
      rw [← Option.some.inj same, HSet.mem_insert] at mem
      rcases mem with rfl | mem
      · exact .inl rfl
      · cases stored : m.get e.1 with
        | none =>
          rw [stored] at mem
          exact absurd mem (HSet.not_mem_empty v)
        | some held =>
          rw [stored] at mem
          exact .inr ⟨held, rfl, mem⟩
    · rintro (same | ⟨held, stored, mem⟩)
      · exact ⟨_, rfl, HSet.mem_insert.2 (.inl (congrArg Prod.snd same))⟩
      · refine ⟨_, rfl, HSet.mem_insert.2 (.inr ?_)⟩
        rw [stored]
        exact mem
  · rw [if_neg here]
    have other : (k, v) ≠ e := fun same => here (congrArg Prod.fst same)
    simp [other]

/-- What is gathered is what there was to gather. -/
theorem holds_gather {entries : List (K × V)} {k : K} {v : V} : Holds (gather entries) k v ↔ (k, v) ∈ entries := by
  suffices step : ∀ m : Dict K (HSet V), Holds (entries.foldl addValue m) k v ↔ (k, v) ∈ entries ∨ Holds m k v by
    have none : ¬Holds (∅ : Dict K (HSet V)) k v := by
      rintro ⟨held, stored, -⟩
      exact absurd ((Dict.get_empty k).symm.trans stored) nofun
    exact (step ∅).trans (or_iff_left none)
  induction entries with
  | nil => simp
  | cons e entries ih =>
    intro m
    rw [List.foldl_cons, ih, holds_addValue, List.mem_cons, or_left_comm, or_assoc]

/-- No key is gathered without a value. -/
theorem gather_nonempty {entries : List (K × V)} {k : K} {held : HSet V} (stored : (gather entries).get k = some held) :
    ∃ v, v ∈ held := by
  suffices step : ∀ m : Dict K (HSet V), (∀ k held, m.get k = some held → ∃ v, v ∈ held) →
      ∀ k held, (entries.foldl addValue m).get k = some held → ∃ v, v ∈ held from
    step ∅ (fun k held stored => absurd ((Dict.get_empty k).symm.trans stored) nofun) k held stored
  clear stored
  induction entries with
  | nil => exact fun m full => full
  | cons e entries ih =>
    refine fun m full => ih _ fun k held stored => ?_
    rw [addValue, Dict.get_insert] at stored
    split at stored
    · rw [← Option.some.inj stored]
      exact ⟨e.2, HSet.mem_insert.2 (.inl rfl)⟩
    · exact full k held stored

omit [DecidableEq V] in
/-- Where no key is without a value, the keys are those that hold one. -/
theorem contains_iff_holds {m : Dict K (HSet V)} (full : ∀ k held, m.get k = some held → ∃ v, v ∈ held) {k : K} :
    m.contains k = true ↔ ∃ v, Holds m k v := by
  rw [Dict.contains_iff]
  constructor
  · rintro ⟨held, stored⟩
    obtain ⟨v, mem⟩ := full k held stored
    exact ⟨v, held, stored, mem⟩
  · rintro ⟨v, held, stored, -⟩
    exact ⟨held, stored⟩

end TelemetryHub.Lib
