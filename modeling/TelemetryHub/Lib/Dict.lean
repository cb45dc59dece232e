import Mathlib.Data.List.AList

/-!
# Hash maps and hash sets

A map is Mathlib's `AList`, whose entry list stands for the iteration order; a
set is a list without repetitions. `retain`, `mapValues` and `values` are what
the standard library has over `AList`.
-/

namespace TelemetryHub.Lib

/-- A finite map with keys `K` and values `V`. -/
def Dict (K V : Type) : Type := AList (fun _ : K => V)

namespace Dict

variable {K V : Type}

/-- The keys and values, in iteration order. -/
def toPairs (m : Dict K V) : List (K × V) := AList.entries m |>.map fun e => (e.1, e.2)

/-- The values, in iteration order. -/
def values (m : Dict K V) : List V := AList.entries m |>.map Sigma.snd

/-- Keep the entries that satisfy `p`. -/
def retain (m : Dict K V) (p : K → V → Bool) : Dict K V :=
  ⟨(AList.entries m).filter fun e => p e.1 e.2, (AList.nodupKeys m).sublist List.filter_sublist⟩

/-- Apply `f` to every value. -/
def mapValues (m : Dict K V) (f : V → V) : Dict K V :=
  ⟨(AList.entries m).map fun e => ⟨e.1, f e.2⟩, by
    have h := AList.nodupKeys m
    rw [List.NodupKeys, List.keys] at h ⊢
    simpa [Function.comp_def] using h⟩

theorem nodup_toPairs (m : Dict K V) : (m.toPairs.map Prod.fst).Nodup := by
  have h := AList.nodupKeys m
  rw [List.NodupKeys, List.keys] at h
  rwa [toPairs, List.map_map]

instance : EmptyCollection (Dict K V) := ⟨(∅ : AList (fun _ : K => V))⟩

instance : Inhabited (Dict K V) := ⟨∅⟩

@[simp] theorem values_empty : (∅ : Dict K V).values = [] := rfl

variable [DecidableEq K]

/-- `get`. -/
def get (m : Dict K V) (k : K) : Option V := AList.lookup k m

/-- `contains_key`. -/
def contains (m : Dict K V) (k : K) : Bool := (m.get k).isSome

/-- Put `v` where `k` is, if it is there. -/
def replace (m : Dict K V) (k : K) (v : V) : Dict K V :=
  ⟨(AList.entries m).map fun e => if e.1 = k then ⟨k, v⟩ else e, by
    have h := AList.nodupKeys m
    rw [List.NodupKeys, List.keys] at h ⊢
    rw [List.map_map]
    refine (congrArg List.Nodup (List.map_congr_left fun e _ => ?_)).mp h
    by_cases hk : e.1 = k
    · simp [hk]
    · simp [hk]⟩

/-- Put `v` where no value is. -/
def add (m : Dict K V) (k : K) (v : V) : Dict K V := AList.insert k v m

/-- `insert`: a key that is there keeps its place. -/
def insert (m : Dict K V) (k : K) (v : V) : Dict K V :=
  if m.contains k then m.replace k v else m.add k v

/-- `remove`. -/
def remove (m : Dict K V) (k : K) : Dict K V := AList.erase k m

theorem get_eq_some_iff {m : Dict K V} {k : K} {v : V} :
    m.get k = some v ↔ ⟨k, v⟩ ∈ AList.entries m := AList.mem_lookup_iff

theorem mem_toPairs {m : Dict K V} {k : K} {v : V} : (k, v) ∈ m.toPairs ↔ m.get k = some v := by
  simp only [toPairs, List.mem_map, get_eq_some_iff]
  constructor
  · rintro ⟨⟨k', v'⟩, hm, he⟩
    cases he
    exact hm
  · intro hm
    exact ⟨⟨k, v⟩, hm, rfl⟩

theorem mem_values {m : Dict K V} {v : V} : v ∈ m.values ↔ ∃ k, m.get k = some v := by
  simp only [values, List.mem_map, get_eq_some_iff]
  constructor
  · rintro ⟨⟨k, v'⟩, hm, rfl⟩
    exact ⟨k, hm⟩
  · rintro ⟨k, hm⟩
    exact ⟨⟨k, v⟩, hm, rfl⟩

theorem contains_iff {m : Dict K V} {k : K} : m.contains k = true ↔ ∃ v, m.get k = some v := by
  simp [contains, Option.isSome_iff_exists]

theorem contains_eq_false {m : Dict K V} {k : K} : m.contains k = false ↔ m.get k = none := by
  simp [contains]

@[simp] theorem get_empty (k : K) : (∅ : Dict K V).get k = none := AList.lookup_empty k

theorem get_replace {m : Dict K V} {k k' : K} {v : V} (hk : m.contains k = true) :
    (m.replace k v).get k' = if k' = k then some v else m.get k' := by
  obtain ⟨old, hold⟩ := contains_iff.1 hk
  ext v'
  rw [get_eq_some_iff]
  simp only [replace, List.mem_map]
  constructor
  · rintro ⟨e, he, heq⟩
    split at heq
    · cases heq
      rw [if_pos rfl]
    · cases heq
      rwa [if_neg ‹_›, get_eq_some_iff]
  · intro h
    split at h
    · cases h
      subst k'
      exact ⟨_, get_eq_some_iff.1 hold, if_pos rfl⟩
    · exact ⟨_, get_eq_some_iff.1 h, if_neg ‹_›⟩

theorem get_insert (m : Dict K V) (k k' : K) (v : V) :
    (m.insert k v).get k' = if k' = k then some v else m.get k' := by
  unfold insert
  split
  · exact get_replace ‹_›
  · by_cases h : k' = k
    · subst h
      rw [if_pos rfl]
      exact AList.lookup_insert m
    · rw [if_neg h]
      exact AList.lookup_insert_ne h

/-- Nothing changes when a key gets the value it has. -/
theorem insert_eq_self {m : Dict K V} {k : K} {v : V} (h : m.get k = some v) :
    m.insert k v = m := by
  rw [insert, if_pos (contains_iff.2 ⟨v, h⟩)]
  apply AList.ext
  refine (List.map_congr_left fun e he => ?_).trans (List.map_id _)
  obtain ⟨k', v'⟩ := e
  by_cases hk : k' = k
  · subst hk
    have hv := get_eq_some_iff.2 he
    rw [h] at hv
    cases hv
    exact if_pos rfl
  · exact if_neg hk

@[simp] theorem get_insert_self (m : Dict K V) (k : K) (v : V) : (m.insert k v).get k = some v := by
  simp [get_insert]

theorem get_insert_ne {m : Dict K V} {k k' : K} {v : V} (h : k' ≠ k) :
    (m.insert k v).get k' = m.get k' := by
  simp [get_insert, h]

theorem get_remove (m : Dict K V) (k k' : K) :
    (m.remove k).get k' = if k' = k then none else m.get k' := by
  by_cases h : k' = k
  · subst h
    simpa [get, remove] using AList.lookup_erase k' m
  · rw [if_neg h]
    exact AList.lookup_erase_ne h

theorem get_retain {m : Dict K V} {p : K → V → Bool} {k : K} :
    (m.retain p).get k = (m.get k).filter (p k) := by
  ext v
  rw [get_eq_some_iff, Option.filter_eq_some_iff, get_eq_some_iff]
  simp [retain, List.mem_filter]

theorem get_mapValues {m : Dict K V} {f : V → V} {k : K} :
    (m.mapValues f).get k = (m.get k).map f := by
  ext v
  rw [get_eq_some_iff, Option.map_eq_some_iff]
  simp only [mapValues, List.mem_map, get_eq_some_iff]
  constructor
  · rintro ⟨⟨k', v'⟩, hm, he⟩
    cases he
    exact ⟨v', hm, rfl⟩
  · rintro ⟨v', hm, rfl⟩
    exact ⟨⟨k, v'⟩, hm, rfl⟩

theorem contains_insert {m : Dict K V} {k k' : K} {v : V} :
    (m.insert k v).contains k' = true ↔ k' = k ∨ m.contains k' = true := by
  by_cases h : k' = k <;> simp [contains, get_insert, h]

@[simp] theorem contains_mapValues {m : Dict K V} {f : V → V} {k : K} :
    (m.mapValues f).contains k = m.contains k := by
  simp [contains, get_mapValues]

/-- Every value satisfies `p`. -/
def All (p : V → Prop) (m : Dict K V) : Prop := ∀ k v, m.get k = some v → p v

namespace All

variable {p : V → Prop} {m : Dict K V} {k : K} {v : V}

theorem empty : (∅ : Dict K V).All p := fun _ _ stored => absurd ((get_empty _).symm.trans stored) nofun

theorem insert (all : m.All p) (new : p v) : (m.insert k v).All p := by
  intro k' v' stored
  rw [get_insert] at stored
  split at stored
  · exact Option.some.inj stored ▸ new
  · exact all k' v' stored

theorem remove (all : m.All p) (k : K) : (m.remove k).All p := by
  intro k' v' stored
  rw [get_remove] at stored
  split at stored
  · exact nomatch stored
  · exact all k' v' stored

theorem retain (all : m.All p) (q : K → V → Bool) : (m.retain q).All p := by
  intro k' v' stored
  rw [get_retain] at stored
  exact all k' v' (Option.filter_eq_some_iff.1 stored).1

theorem mapValues (all : m.All p) {f : V → V} (kept : ∀ v, p v → p (f v)) : (m.mapValues f).All p := by
  intro k' v' stored
  rw [get_mapValues] at stored
  obtain ⟨v, before, rfl⟩ := Option.map_eq_some_iff.1 stored
  exact kept v (all k' v before)

end All

end Dict

/-- A finite set, in iteration order. -/
structure HSet (α : Type) where
  toList : List α
  nodup : toList.Nodup

namespace HSet

variable {α : Type}

@[ext] theorem ext {s t : HSet α} (h : s.toList = t.toList) : s = t := by
  cases s; cases t; cases h; rfl

instance : EmptyCollection (HSet α) := ⟨⟨[], List.nodup_nil⟩⟩

instance : Inhabited (HSet α) := ⟨∅⟩

instance : Membership α (HSet α) := ⟨fun s a => a ∈ s.toList⟩

theorem mem_def {s : HSet α} {a : α} : a ∈ s ↔ a ∈ s.toList := Iff.rfl

@[simp] theorem not_mem_empty (a : α) : a ∉ (∅ : HSet α) := List.not_mem_nil

/-- Keep the elements that satisfy `p`. -/
def retain (s : HSet α) (p : α → Bool) : HSet α := ⟨s.toList.filter p, s.nodup.filter p⟩

@[simp] theorem mem_retain {s : HSet α} {p : α → Bool} {a : α} : a ∈ s.retain p ↔ a ∈ s ∧ p a :=
  List.mem_filter

/-- Nothing to remove, nothing changes. -/
theorem retain_eq_self {s : HSet α} {p : α → Bool} (h : ∀ a ∈ s, p a) : s.retain p = s := by
  ext1
  exact List.filter_eq_self.2 h

variable [DecidableEq α]

instance (a : α) (s : HSet α) : Decidable (a ∈ s) := inferInstanceAs (Decidable (a ∈ s.toList))

/-- `contains`. -/
def contains (s : HSet α) (a : α) : Bool := decide (a ∈ s)

/-- `insert`. -/
def insert (s : HSet α) (a : α) : HSet α := ⟨s.toList.insert a, s.nodup.insert⟩

/-- `remove`. -/
def erase (s : HSet α) (a : α) : HSet α := ⟨s.toList.erase a, s.nodup.erase a⟩

theorem erase_eq_self {s : HSet α} {a : α} (h : a ∉ s) : s.erase a = s := by
  ext1
  exact List.erase_of_not_mem h

/-- `extend`. -/
def extend (s : HSet α) (items : List α) : HSet α := items.foldl insert s

@[simp] theorem contains_iff {s : HSet α} {a : α} : s.contains a = true ↔ a ∈ s := decide_eq_true_iff

@[simp] theorem mem_insert {s : HSet α} {a b : α} : b ∈ s.insert a ↔ b = a ∨ b ∈ s :=
  List.mem_insert_iff

@[simp] theorem mem_erase {s : HSet α} {a b : α} : b ∈ s.erase a ↔ b ≠ a ∧ b ∈ s :=
  s.nodup.mem_erase_iff

@[simp] theorem mem_extend {s : HSet α} {items : List α} {b : α} :
    b ∈ s.extend items ↔ b ∈ s ∨ b ∈ items := by
  induction items generalizing s with
  | nil => simp [extend]
  | cons a rest ih =>
    have h : s.extend (a :: rest) = (s.insert a).extend rest := rfl
    rw [h, ih, mem_insert, List.mem_cons]
    tauto

end HSet

/-- The value of the row that lists `key`: a match on values with alternatives. -/
def lookupRow {K α : Type} [DecidableEq K] (rows : List (List K × α)) (key : K) : Option α :=
  (rows.find? fun row => key ∈ row.1).map Prod.snd

/-- What holds of every row holds of whatever is looked up. -/
theorem lookupRow_spec {K α : Type} [DecidableEq K] {rows : List (List K × α)} {key : K} {a : α}
    {P : K → α → Prop} (rowsHave : ∀ row ∈ rows, ∀ key ∈ row.1, P key row.2)
    (h : lookupRow rows key = some a) : P key a := by
  obtain ⟨row, hfind, rfl⟩ := Option.map_eq_some_iff.1 h
  have hkey := List.find?_some hfind
  exact rowsHave row (List.mem_of_find?_eq_some hfind) key (by simpa using hkey)

end TelemetryHub.Lib
