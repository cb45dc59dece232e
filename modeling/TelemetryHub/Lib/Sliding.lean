import Mathlib.Data.List.Basic

/-!
# Sliding windows

A list of which the last so many items are kept: each new item goes to the end, and what is too
much goes from the front.
-/

namespace TelemetryHub.Lib

variable {α : Type}

/-- One more item, of which the last `size` are kept. -/
def slide (size : ℕ) (items : List α) (item : α) : List α :=
  (items ++ [item]).drop ((items ++ [item]).length - size)

variable {size : ℕ} {items : List α}

theorem slide_suffix (size : ℕ) (items : List α) (item : α) : slide size items item <:+ items ++ [item] :=
  List.drop_suffix _ _

theorem mem_of_mem_slide {item other : α} (mem : other ∈ slide size items item) : other ∈ items ∨ other = item := by
  have mem := (slide_suffix size items item).subset mem
  rwa [List.mem_append, List.mem_singleton] at mem

theorem mem_of_mem_foldl_slide {more : List α} {item : α} (mem : item ∈ more.foldl (slide size) items) :
    item ∈ items ∨ item ∈ more := by
  induction more generalizing items with
  | nil => exact .inl mem
  | cons first rest ih =>
    rcases ih mem with before | later
    · rcases mem_of_mem_slide before with old | rfl
      · exact .inl old
      · exact .inr List.mem_cons_self
    · exact .inr (List.mem_cons_of_mem _ later)

/-- With room for what is behind an item and one more, the item stays. -/
theorem slide_behind (before : List α) {behind : List α} (kept : α) (room : behind.length + 1 < size) (item : α) :
    ∃ before', slide size (before ++ kept :: behind) item = before' ++ kept :: (behind ++ [item]) := by
  refine ⟨before.drop (before.length + behind.length + 2 - size), ?_⟩
  have whole : before ++ kept :: behind ++ [item] = before ++ kept :: (behind ++ [item]) := by simp
  have front : before.length + behind.length + 2 - size ≤ before.length := by omega
  rw [slide, whole, List.length_append, List.length_cons, List.length_append, List.length_singleton,
    show before.length + (behind.length + 1 + 1) - size = before.length + behind.length + 2 - size by omega,
    List.drop_append_of_le_length front]

theorem slide_last (positive : 0 < size) (items : List α) (item : α) :
    ∃ before, slide size items item = before ++ [item] := by
  refine ⟨items.drop (items.length + 1 - size), ?_⟩
  rw [slide, List.length_append, List.length_singleton, List.drop_append_of_le_length (by omega)]

theorem mem_slide (positive : 0 < size) (items : List α) (item : α) : item ∈ slide size items item := by
  obtain ⟨before, last⟩ := slide_last positive items item
  rw [last]
  exact List.mem_append_right _ List.mem_cons_self

/-- An item stays as long as fewer than `size` others have come behind it. -/
theorem foldl_slide_behind (more before : List α) {behind : List α} (kept : α)
    (room : behind.length + more.length < size) :
    ∃ before', more.foldl (slide size) (before ++ kept :: behind) = before' ++ kept :: (behind ++ more) := by
  induction more generalizing before behind with
  | nil => exact ⟨before, by simp⟩
  | cons item more ih =>
    rw [List.length_cons] at room
    obtain ⟨before', step⟩ := slide_behind before kept (by omega : behind.length + 1 < size) item
    have few : (behind ++ [item]).length + more.length < size := by
      rw [List.length_append, List.length_singleton]
      omega
    obtain ⟨before'', rest⟩ := ih before' few
    exact ⟨before'', by rw [List.foldl_cons, step, rest, List.append_assoc, List.singleton_append]⟩

/-- The latest item is there until `size` others have come. -/
theorem mem_foldl_slide (items : List α) (item : α) {more : List α} (few : more.length < size) :
    item ∈ more.foldl (slide size) (slide size items item) := by
  obtain ⟨before, last⟩ := slide_last (Nat.zero_lt_of_lt few) items item
  obtain ⟨before', rest⟩ := foldl_slide_behind more before item
    (show ([] : List α).length + more.length < size by simpa using few)
  rw [last, rest]
  exact List.mem_append_right _ List.mem_cons_self

end TelemetryHub.Lib
