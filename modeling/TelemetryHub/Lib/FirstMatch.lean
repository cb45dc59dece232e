import Mathlib.Data.List.Forall2

/-!
# Rewriting the first match

`iter_mut().find(p)` and a write through it: the first element that satisfies `p`
is rewritten, the rest of the list stays.
-/

namespace TelemetryHub.Lib

variable {α : Type}

/-- Rewrite the first element that satisfies `p`. -/
def replaceFirst (p : α → Bool) (f : α → α) : List α → List α
  | [] => []
  | a :: rest => if p a then f a :: rest else a :: replaceFirst p f rest

variable {p : α → Bool} {f : α → α} {items : List α}

theorem replaceFirst_of_none (h : items.find? p = none) : replaceFirst p f items = items := by
  induction items with
  | nil => rfl
  | cons a rest ih =>
    by_cases ha : p a = true
    · simp [ha] at h
    · rw [List.find?_cons_of_neg ha] at h
      rw [replaceFirst, if_neg ha, ih h]

@[simp] theorem replaceFirst_id (p : α → Bool) (items : List α) : replaceFirst p id items = items := by
  induction items with
  | nil => rfl
  | cons a rest ih =>
    rw [replaceFirst, ih]
    split <;> rfl

/-- Place by place: the element found is rewritten, every other is the same. -/
theorem forall₂_replaceFirst (p : α → Bool) (f : α → α) (items : List α) :
    List.Forall₂ (fun a b => b = a ∨ items.find? p = some a ∧ b = f a) items (replaceFirst p f items) := by
  induction items with
  | nil => exact .nil
  | cons a rest ih =>
    by_cases ha : p a = true
    · rw [replaceFirst, if_pos ha, List.find?_cons_of_pos ha]
      refine .cons (.inr ⟨rfl, rfl⟩) ?_
      exact List.forall₂_same.2 fun b _ => .inl rfl
    · rw [replaceFirst, if_neg ha, List.find?_cons_of_neg ha]
      exact .cons (.inl rfl) ih

theorem forall₂_refl_of {R : α → α → Prop} (h : ∀ a, R a a) (items : List α) : List.Forall₂ R items items :=
  List.forall₂_same.2 fun a _ => h a

theorem forall₂_trans {R S T : α → α → Prop} (h : ∀ a b c, R a b → S b c → T a c) {l₁ l₂ l₃ : List α}
    (h₁ : List.Forall₂ R l₁ l₂) (h₂ : List.Forall₂ S l₂ l₃) : List.Forall₂ T l₁ l₃ := by
  induction h₁ generalizing l₃ with
  | nil =>
    cases h₂
    exact .nil
  | cons hab _ ih =>
    cases h₂ with
    | cons hbc hrest => exact .cons (h _ _ _ hab hbc) (ih hrest)

theorem length_replaceFirst (p : α → Bool) (f : α → α) (items : List α) :
    (replaceFirst p f items).length = items.length :=
  (forall₂_replaceFirst p f items).length_eq.symm

/-- What the rewrite keeps of an element is the same throughout. -/
theorem map_replaceFirst {β : Type} {g : α → β} (h : ∀ a, g (f a) = g a) :
    (replaceFirst p f items).map g = items.map g := by
  induction items with
  | nil => rfl
  | cons a rest ih =>
    by_cases ha : p a = true
    · rw [replaceFirst, if_pos ha, List.map_cons, List.map_cons, h a]
    · rw [replaceFirst, if_neg ha, List.map_cons, List.map_cons, ih]

/-- The rewritten element is no concern of `q`, before or after. -/
theorem filter_replaceFirst_of_disjoint {q : α → Bool} (h : ∀ a, p a = true → q a = false ∧ q (f a) = false)
    (items : List α) : (replaceFirst p f items).filter q = items.filter q := by
  induction items with
  | nil => rfl
  | cons a rest ih =>
    by_cases ha : p a = true
    · rw [replaceFirst, if_pos ha]
      simp [(h a ha).1, (h a ha).2]
    · rw [replaceFirst, if_neg ha, List.filter_cons, List.filter_cons, ih]

/-- The elements that are a concern of `q`, the first match among them rewritten. -/
theorem filter_replaceFirst {q : α → Bool} (h : ∀ a, p a = true → q a = true ∧ q (f a) = true) (items : List α) :
    (replaceFirst p f items).filter q = replaceFirst p f (items.filter q) := by
  induction items with
  | nil => rfl
  | cons a rest ih =>
    by_cases ha : p a = true
    · rw [replaceFirst, if_pos ha, List.filter_cons_of_pos (h a ha).2, List.filter_cons_of_pos (h a ha).1, replaceFirst,
        if_pos ha]
    · rw [replaceFirst, if_neg ha]
      by_cases hq : q a = true
      · rw [List.filter_cons_of_pos hq, List.filter_cons_of_pos hq, replaceFirst, if_neg ha, ih]
      · rw [List.filter_cons_of_neg hq, List.filter_cons_of_neg hq, ih]

end TelemetryHub.Lib
