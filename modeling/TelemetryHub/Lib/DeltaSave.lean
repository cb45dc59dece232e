import Mathlib.Data.List.Induction
import TelemetryHub.Lib.Dict

/-!
# Tables saved from a copy

A writer reads the rows of a table, goes on with a copy and saves that over the table, whoever
has written there meanwhile: the keys that it has no more are deleted, all the others are
written, changed or not. The keys are compared by their texts.
-/

namespace TelemetryHub.Lib

variable {K V S : Type} [DecidableEq K] [DecidableEq S]

/-- Rows as a table: of two under one key the later one. -/
def fileRows (rows : List (K × V)) : Dict K V := rows.foldl (fun table row => table.insert row.1 row.2) ∅

/-- The keys of rows by their texts: of two with one text the later one. -/
def keysByText (text : K → S) (rows : List (K × V)) : Dict S K :=
  rows.foldl (fun keys row => keys.insert (text row.1) row.1) ∅

/-- The keys to be deleted. -/
def goneKeys (text : K → S) (before after : List (K × V)) : List K :=
  ((keysByText text before).toPairs.filter fun e => !(after.map fun row => text row.1).contains e.1).map Prod.snd

/-- The table behind the save of a copy that was `before` and is `after`. -/
def saveRows (text : K → S) (before after : List (K × V)) (table : Dict K V) : Dict K V :=
  after.foldl (fun table row => table.insert row.1 row.2) ((goneKeys text before after).foldl Dict.remove table)

variable {text : K → S} {before after rows : List (K × V)} {table : Dict K V} {k : K}

/-! ## One save -/

theorem get_foldl_insert (rows : List (K × V)) (table : Dict K V) (k : K) :
    (rows.foldl (fun table row => table.insert row.1 row.2) table).get k = ((fileRows rows).get k).or (table.get k) := by
  unfold fileRows
  induction rows using List.reverseRecOn generalizing table with
  | nil =>
    rw [List.foldl_nil, List.foldl_nil, Dict.get_empty]
    rfl
  | append_singleton rows row ih =>
    rw [List.foldl_append, List.foldl_append, List.foldl_cons, List.foldl_cons, List.foldl_nil, List.foldl_nil,
      Dict.get_insert, Dict.get_insert]
    split
    · rfl
    · exact ih table

theorem contains_fileRows (rows : List (K × V)) (k : K) :
    (fileRows rows).contains k = true ↔ k ∈ rows.map Prod.fst := by
  unfold fileRows
  induction rows using List.reverseRecOn with
  | nil => simp [Dict.contains]
  | append_singleton rows row ih =>
    rw [List.foldl_append, List.foldl_cons, List.foldl_nil, Dict.contains_insert, ih]
    simp [or_comm, eq_comm]

theorem mem_of_get_fileRows {v : V} (found : (fileRows rows).get k = some v) : (k, v) ∈ rows := by
  unfold fileRows at found
  induction rows using List.reverseRecOn with
  | nil => exact absurd ((Dict.get_empty k).symm.trans found) nofun
  | append_singleton rows row ih =>
    rw [List.foldl_append, List.foldl_cons, List.foldl_nil, Dict.get_insert] at found
    rw [List.mem_append, List.mem_singleton]
    split at found
    · rename_i here
      exact .inr (Prod.ext here (Option.some.inj found).symm)
    · exact .inl (ih found)

/-- Where no two rows have one key, the rows are those of the table. -/
theorem get_fileRows_iff (nodup : (rows.map Prod.fst).Nodup) {v : V} : (fileRows rows).get k = some v ↔ (k, v) ∈ rows := by
  unfold fileRows
  induction rows using List.reverseRecOn with
  | nil => simp [Dict.get_empty]
  | append_singleton rows row ih =>
    refine ⟨mem_of_get_fileRows, fun mem => ?_⟩
    rw [List.map_append, List.nodup_append] at nodup
    rw [List.foldl_append, List.foldl_cons, List.foldl_nil, Dict.get_insert]
    rcases List.mem_append.1 mem with early | last
    · rw [if_neg (nodup.2.2 k (List.mem_map_of_mem early) row.1 (by simp))]
      exact (ih nodup.1).2 early
    · rw [← List.mem_singleton.1 last, if_pos rfl]

theorem get_foldl_remove (keys : List K) (table : Dict K V) (k : K) :
    (keys.foldl Dict.remove table).get k = if k ∈ keys then none else table.get k := by
  induction keys generalizing table with
  | nil => simp
  | cons key keys ih =>
    rw [List.foldl_cons, ih, Dict.get_remove]
    by_cases here : k = key <;> simp [here]

/-- What a save leaves under a key: the row of the copy, or else nothing where the key is
gone, or else the row that was there. -/
theorem get_saveRows (k : K) : (saveRows text before after table).get k =
    ((fileRows after).get k).or (if k ∈ goneKeys text before after then none else table.get k) := by
  rw [saveRows, get_foldl_insert, get_foldl_remove]

/-- The save decides what is under the key. -/
def Decides (text : K → S) (before after : List (K × V)) (k : K) : Bool :=
  (fileRows after).contains k || (goneKeys text before after).contains k

theorem get_saveRows_decided (decided : Decides text before after k = true) :
    (saveRows text before after table).get k = (fileRows after).get k := by
  rw [get_saveRows]
  cases there : (fileRows after).get k with
  | some v => rfl
  | none =>
    have gone : k ∈ goneKeys text before after := by
      simpa [Decides, Dict.contains, there] using decided
    rw [if_pos gone]
    rfl

theorem get_saveRows_undecided (undecided : Decides text before after k = false) :
    (saveRows text before after table).get k = table.get k := by
  rw [Decides, Bool.or_eq_false_iff] at undecided
  rw [get_saveRows, Dict.contains_eq_false.1 undecided.1, if_neg (by simpa using undecided.2)]
  rfl

/-! ## Keys that are gone -/

omit [DecidableEq K] in
theorem keysByText_some {s : S} {k : K} (found : (keysByText text rows).get s = some k) :
    k ∈ rows.map Prod.fst ∧ text k = s := by
  unfold keysByText at found
  induction rows using List.reverseRecOn with
  | nil => exact absurd ((Dict.get_empty s).symm.trans found) nofun
  | append_singleton rows row ih =>
    rw [List.foldl_append, List.foldl_cons, List.foldl_nil, Dict.get_insert] at found
    split at found
    · rename_i here
      rw [← Option.some.inj found, here]
      simp
    · obtain ⟨mem, same⟩ := ih found
      rw [List.map_append]
      exact ⟨List.mem_append_left _ mem, same⟩

omit [DecidableEq K] in
theorem keysByText_of_mem {k : K} (mem : k ∈ rows.map Prod.fst) : ∃ k', (keysByText text rows).get (text k) = some k' := by
  unfold keysByText
  induction rows using List.reverseRecOn with
  | nil => exact absurd mem List.not_mem_nil
  | append_singleton rows row ih =>
    rw [List.foldl_append, List.foldl_cons, List.foldl_nil, Dict.get_insert]
    split
    · exact ⟨row.1, rfl⟩
    · rename_i other
      rw [List.map_append, List.mem_append] at mem
      refine ih (mem.resolve_right fun last => other ?_)
      rw [show k = row.1 by simpa using last]

omit [DecidableEq K] in
theorem mem_goneKeys {k : K} : k ∈ goneKeys text before after ↔
    (keysByText text before).get (text k) = some k ∧ text k ∉ after.map fun row => text row.1 := by
  unfold goneKeys
  rw [List.mem_map]
  constructor
  · rintro ⟨⟨s, k'⟩, mem, rfl⟩
    obtain ⟨stored, absent⟩ := List.mem_filter.1 mem
    have found := Dict.mem_toPairs.1 stored
    rw [(keysByText_some found).2]
    exact ⟨found, by simpa using absent⟩
  · rintro ⟨found, absent⟩
    exact ⟨(text k, k), List.mem_filter.2 ⟨Dict.mem_toPairs.2 found, by simpa using absent⟩, rfl⟩

/-- No key that goes has the text of another one. -/
def KeysApart (text : K → S) (before after : List (K × V)) : Prop :=
  ∀ k ∈ before.map Prod.fst, k ∉ after.map Prod.fst →
    ∀ k' ∈ before.map Prod.fst ++ after.map Prod.fst, text k' = text k → k' = k

omit [DecidableEq K] in
theorem goneKeys_iff_apart : (∀ k ∈ before.map Prod.fst, k ∉ after.map Prod.fst → k ∈ goneKeys text before after) ↔
    KeysApart text before after := by
  constructor
  · intro all k mem gone k' mem' same
    obtain ⟨found, absent⟩ := mem_goneKeys.1 (all k mem gone)
    have missing : k' ∉ after.map Prod.fst := by
      intro there
      obtain ⟨row, here, rfl⟩ := List.mem_map.1 there
      exact absent (List.mem_map.2 ⟨row, here, same⟩)
    obtain ⟨found', -⟩ := mem_goneKeys.1 (all k' ((List.mem_append.1 mem').resolve_right missing) missing)
    rw [same, found] at found'
    exact (Option.some.inj found').symm
  · intro apart k mem gone
    obtain ⟨k', found⟩ : ∃ k', (keysByText text before).get (text k) = some k' := keysByText_of_mem mem
    obtain ⟨mem', same⟩ := keysByText_some found
    rw [apart k mem gone k' (List.mem_append_left _ mem') same] at found
    refine mem_goneKeys.2 ⟨found, fun there => ?_⟩
    obtain ⟨row, here, same⟩ := List.mem_map.1 there
    have kept : row.1 ∈ after.map Prod.fst := List.mem_map_of_mem here
    rw [apart k mem gone row.1 (List.mem_append_right _ kept) same] at kept
    exact gone kept

omit [DecidableEq K] [DecidableEq S] in
/-- Texts that no two keys share keep all of them apart. -/
theorem KeysApart.of_injective (injective : ∀ k ∈ before.map Prod.fst ++ after.map Prod.fst,
    ∀ k' ∈ before.map Prod.fst ++ after.map Prod.fst, text k' = text k → k' = k) : KeysApart text before after :=
  fun k mem _ k' mem' same => injective k (List.mem_append_left _ mem) k' mem' same

/-- A copy of the whole table is saved exactly if the keys that go have texts of their own. -/
theorem saveRows_exact_iff (whole : ∀ k, table.get k = (fileRows before).get k) :
    (∀ k, (saveRows text before after table).get k = (fileRows after).get k) ↔ KeysApart text before after := by
  rw [← goneKeys_iff_apart]
  constructor
  · intro exact_ k mem gone
    by_contra kept
    have absent : (fileRows after).get k = none := by
      rw [← Dict.contains_eq_false, ← Bool.not_eq_true, contains_fileRows]
      exact gone
    obtain ⟨v, there⟩ := Dict.contains_iff.1 ((contains_fileRows before k).2 mem)
    have left := exact_ k
    rw [get_saveRows, absent, if_neg kept, whole, there] at left
    exact absurd left nofun
  · intro all k
    by_cases decided : Decides text before after k = true
    · exact get_saveRows_decided decided
    · rw [Bool.not_eq_true] at decided
      rw [get_saveRows_undecided decided, whole]
      rw [Decides, Bool.or_eq_false_iff] at decided
      have absent := Dict.contains_eq_false.1 decided.1
      have gone : k ∉ after.map Prod.fst := by
        rw [← contains_fileRows, decided.1]
        exact Bool.false_ne_true
      rw [absent, ← Dict.contains_eq_false, ← Bool.not_eq_true, contains_fileRows]
      intro mem
      have := all k mem gone
      simp [this] at decided

/-! ## Saves one after another -/

/-- A copy as it was taken and as it is saved. -/
structure Save (K V : Type) where
  before : List (K × V)
  after : List (K × V)

/-- Of several saves the last that decides a key has the word on it; where none does, the row
stays as it was. -/
theorem get_saves (saves : List (Save K V)) (table : Dict K V) (k : K) :
    (saves.foldl (fun table save => saveRows text save.before save.after table) table).get k =
      (saves.reverse.find? fun save => Decides text save.before save.after k).elim (table.get k) fun save =>
        (fileRows save.after).get k := by
  induction saves using List.reverseRecOn with
  | nil => rfl
  | append_singleton saves save ih =>
    rw [List.foldl_append, List.foldl_cons, List.foldl_nil, List.reverse_append, List.reverse_singleton,
      List.singleton_append, List.find?_cons]
    cases decided : Decides text save.before save.after k with
    | true => exact get_saveRows_decided decided
    | false =>
      rw [get_saveRows_undecided decided]
      exact ih

end TelemetryHub.Lib
