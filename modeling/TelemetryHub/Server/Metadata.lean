import TelemetryHub.Server.State

/-!
# Delivery metadata

The metadata of an outbound message is a JSON object the delivery code merges
updates into and takes superseded keys out of. What it says of a delivery is read
by key.
-/

namespace TelemetryHub

open Lib

/-! ## Merging -/

/-- `merge_delivery_metadata`. -/
def mergeDeliveryMetadata (target update : Value) : Value :=
  let target := if target.isObject then target else .object []
  match update with
  | .object fields => fields.foldl (fun acc field => acc.insert field.1 field.2) target
  | _ => target

/-- `object.remove(key)` for each of the keys. -/
def Value.removeKeys (keys : List String) : Value → Value
  | .object fields => .object (fields.filter fun field => !keys.contains field.1)
  | v => v

/-- The keys of `clear_success_superseded_delivery_metadata`. -/
def successSupersededKeys : List String :=
  ["dispatch_timeout", "dispatch_timed_out_at_ts_ms", "error", "last_attempt_failed_at_ts_ms", "retry_reason"]

/-- `clear_success_superseded_delivery_metadata`. -/
def clearSuccessSupersededDeliveryMetadata (metadata : Value) : Value :=
  metadata.removeKeys successSupersededKeys

/-- The keys of `clear_retry_superseded_delivery_metadata`. -/
def retrySupersededKeys : List String :=
  successSupersededKeys ++
    ["dispatch_started_ts_ms", "dispatch_deadline_ts_ms", "receipt_deadline_ts_ms", "receipt_last_poll_ts_ms",
      "receipt_registered_ts_ms", "reticulumd_receipt_targets", "sdk_attempts", "sdk_delivery_state",
      "sdk_last_updated_ms", "sdk_message_id", "sdk_reason_code", "sdk_terminal"]

/-- `clear_retry_superseded_delivery_metadata`. -/
def clearRetrySupersededDeliveryMetadata (metadata : Value) : Value :=
  metadata.removeKeys retrySupersededKeys

theorem lookup_map_replace (fields : List (String × Value)) (key key' : String) (item : Value) :
    (fields.map fun f => if f.1 == key then (key, item) else f).lookup key' =
      if key' = key then (fields.lookup key).map fun _ => item else fields.lookup key' := by
  induction fields with
  | nil => simp
  | cons f fields ih =>
    obtain ⟨k, v⟩ := f
    by_cases hk : k = key
    · subst hk
      by_cases hk' : key' = k
      · subst hk'
        simp
      · have hne : (key' == k) = false := beq_eq_false_iff_ne.2 hk'
        simp only [List.map_cons, beq_self_eq_true, if_true, List.lookup_cons, hne, hk', if_false] at ih ⊢
        exact ih
    · have hkey : (k == key) = false := beq_eq_false_iff_ne.2 hk
      have hkey' : (key == k) = false := beq_eq_false_iff_ne.2 fun h => hk h.symm
      simp only [List.map_cons, hkey, Bool.false_eq_true, if_false, List.lookup_cons, hkey', ih]
      by_cases hk' : key' = key
      · subst hk'
        simp [hkey']
      · by_cases hk'' : key' = k
        · simp [hk'', hk]
        · have hne : (key' == k) = false := beq_eq_false_iff_ne.2 hk''
          simp [hk', hne]

theorem lookup_isSome_of_any {fields : List (String × Value)} {key : String} :
    fields.any (fun f => f.1 == key) = (fields.lookup key).isSome := by
  induction fields with
  | nil => rfl
  | cons f fields ih =>
    obtain ⟨k, v⟩ := f
    by_cases hk : k = key
    · simp [hk]
    · have h1 : (k == key) = false := beq_eq_false_iff_ne.2 hk
      have h2 : (key == k) = false := beq_eq_false_iff_ne.2 fun h => hk h.symm
      simp only [List.any_cons, h1, Bool.false_or, List.lookup_cons, h2]
      exact ih

@[simp] theorem isObject_insert (v : Value) (key : String) (item : Value) :
    (v.insert key item).isObject = v.isObject := by
  cases v <;> rfl

/-- An object reads the item where it was put and what it had elsewhere. -/
theorem get_insert_value {v : Value} (hv : v.isObject = true) (key key' : String) (item : Value) :
    (v.insert key item).get key' = if key' = key then some item else v.get key' := by
  cases v with
  | object fields =>
    show (if fields.any (fun f => f.1 == key) then
      fields.map fun f => if f.1 == key then (key, item) else f else fields ++ [(key, item)]).lookup key' =
        if key' = key then some item else fields.lookup key'
    rw [lookup_isSome_of_any]
    cases hheld : fields.lookup key with
    | some held =>
      rw [Option.isSome_some, if_pos rfl, lookup_map_replace, hheld, Option.map_some]
    | none =>
      rw [Option.isSome_none, if_neg Bool.false_ne_true, List.lookup_append]
      by_cases hk : key' = key
      · subst hk
        simp [hheld]
      · have hne : (key' == key) = false := beq_eq_false_iff_ne.2 hk
        simp [List.lookup_cons, hne, hk]
  | _ => cases hv

theorem merge_fields_isObject (fields : List (String × Value)) {target : Value} (h : target.isObject = true) :
    (fields.foldl (fun acc field => acc.insert field.1 field.2) target).isObject = true := by
  induction fields generalizing target with
  | nil => exact h
  | cons f fields ih => exact ih (by rw [isObject_insert, h])

/-- The last of the merged entries under the key, else what was there. -/
theorem merge_fields_get (fields : List (String × Value)) {target : Value} (h : target.isObject = true)
    (key : String) :
    (fields.foldl (fun acc field => acc.insert field.1 field.2) target).get key =
      (fields.reverse.lookup key).or (target.get key) := by
  induction fields generalizing target with
  | nil => rfl
  | cons f fields ih =>
    obtain ⟨k, v⟩ := f
    rw [List.foldl_cons, ih (by rw [isObject_insert, h]), get_insert_value h, List.reverse_cons,
      List.lookup_append]
    by_cases hk : key = k
    · subst hk
      cases fields.reverse.lookup key <;> simp
    · have hne : (key == k) = false := beq_eq_false_iff_ne.2 hk
      cases fields.reverse.lookup key <;> simp [hk, List.lookup_cons, hne]

theorem isObject_merge (target : Value) (fields : List (String × Value)) :
    (mergeDeliveryMetadata target (.object fields)).isObject = true := by
  unfold mergeDeliveryMetadata
  refine merge_fields_isObject fields ?_
  split
  · assumption
  · rfl

theorem get_of_not_object {v : Value} (h : v.isObject = false) (key : String) : v.get key = none := by
  cases v with
  | object fields => cases h
  | _ => rfl

theorem get_object (fields : List (String × Value)) (key : String) : (Value.object fields).get key = fields.lookup key := rfl

/-- What the merged metadata says under a key. -/
theorem get_merge (target : Value) (fields : List (String × Value)) (key : String) :
    (mergeDeliveryMetadata target (.object fields)).get key =
      (fields.reverse.lookup key).or (target.get key) := by
  unfold mergeDeliveryMetadata
  by_cases hobj : target.isObject = true
  · simp only [hobj, if_true]
    exact merge_fields_get fields hobj key
  · simp only [hobj, Bool.false_eq_true, if_false]
    have hnone : target.get key = none := get_of_not_object (Bool.not_eq_true _ |>.mp hobj) key
    rw [merge_fields_get fields rfl key, hnone]
    rfl

theorem lookup_filter_keys (keys : List String) (fields : List (String × Value)) (key : String) :
    (fields.filter fun field => !keys.contains field.1).lookup key =
      if keys.contains key then none else fields.lookup key := by
  induction fields with
  | nil => simp
  | cons f fields ih =>
    obtain ⟨k, v⟩ := f
    rw [List.filter_cons]
    by_cases hk : key = k
    · subst hk
      by_cases hc : keys.contains key = true
      · simp only [hc, Bool.not_true, Bool.false_eq_true, if_false, if_true] at ih ⊢
        exact ih
      · simp only [hc, Bool.not_false, if_true, List.lookup_cons, beq_self_eq_true, Bool.false_eq_true, if_false]
    · have hne : (key == k) = false := beq_eq_false_iff_ne.2 hk
      split
      · rw [List.lookup_cons, hne, ih, List.lookup_cons, hne]
      · rw [ih, List.lookup_cons, hne]

/-- What is left of the metadata once keys are taken out. -/
theorem get_removeKeys (v : Value) (keys : List String) (key : String) :
    (v.removeKeys keys).get key = if keys.contains key then none else v.get key := by
  cases v with
  | object fields => exact lookup_filter_keys keys fields key
  | _ => exact (ite_self none).symm

/-! ## Metadata built by merging -/

/-- No key of the object occurs twice. -/
def Value.Distinct : Value → Prop
  | .object fields => (fields.map (·.1)).Nodup
  | _ => True

theorem distinct_insert {v : Value} (h : v.Distinct) (key : String) (item : Value) : (v.insert key item).Distinct := by
  cases v with
  | object fields =>
    show (Value.object (if fields.any (fun f => f.1 == key) then
      fields.map fun f => if f.1 == key then (key, item) else f else fields ++ [(key, item)])).Distinct
    by_cases hheld : fields.any (fun f => f.1 == key) = true
    · rw [if_pos hheld]
      show List.Nodup _
      have hkeys : ∀ f : String × Value, (if f.1 == key then (key, item) else f).1 = f.1 := by
        intro f
        by_cases hf : (f.1 == key) = true
        · rw [if_pos hf]
          exact (beq_iff_eq.1 hf).symm
        · rw [if_neg hf]
      rw [List.map_map, show (fun f : String × Value => f.1) ∘ (fun f => if f.1 == key then (key, item) else f) =
        fun f => f.1 from funext hkeys]
      exact h
    · rw [if_neg hheld]
      show List.Nodup _
      rw [List.map_append, List.nodup_append]
      refine ⟨h, List.nodup_singleton key, ?_⟩
      intro a ha b hb
      obtain ⟨f, hf, rfl⟩ := List.mem_map.1 ha
      rw [List.mem_singleton.1 hb]
      intro heq
      exact hheld (List.any_eq_true.2 ⟨f, hf, by simp [heq]⟩)
  | _ => exact h

theorem distinct_merge {target : Value} (h : target.Distinct) (update : Value) :
    (mergeDeliveryMetadata target update).Distinct := by
  have hfold : ∀ (fields : List (String × Value)) (acc : Value), acc.Distinct →
      (fields.foldl (fun acc field => acc.insert field.1 field.2) acc).Distinct := by
    intro fields
    induction fields with
    | nil =>
      intro acc hacc
      exact hacc
    | cons f fields ih =>
      intro acc hacc
      exact ih _ (distinct_insert hacc f.1 f.2)
  have hstart : (if target.isObject then target else .object []).Distinct := by
    split
    · exact h
    · exact List.nodup_nil
  cases update with
  | object fields => exact hfold fields _ hstart
  | _ => exact hstart

theorem reverse_lookup {fields : List (String × Value)} (h : (fields.map (·.1)).Nodup) (key : String) :
    fields.reverse.lookup key = fields.lookup key := by
  induction fields with
  | nil => rfl
  | cons f fields ih =>
    obtain ⟨k, v⟩ := f
    rw [List.map_cons, List.nodup_cons] at h
    rw [List.reverse_cons, List.lookup_append, ih h.2]
    by_cases hk : key = k
    · subst hk
      have hnone : fields.lookup key = none := by
        rw [List.lookup_eq_none_iff]
        intro f hf
        have hne : key ≠ f.1 := by
          intro heq
          exact h.1 (List.mem_map.2 ⟨f, hf, heq.symm⟩)
        simpa using hne
      simp [hnone]
    · have hne : (key == k) = false := beq_eq_false_iff_ne.2 hk
      simp [List.lookup_cons, hne]

/-- What the merged metadata says under a key: what the update says, else what was there. -/
theorem get_merge_distinct (target : Value) {update : Value} (h : update.Distinct) (key : String) :
    (mergeDeliveryMetadata target update).get key = (update.get key).or (target.get key) := by
  cases update with
  | object fields =>
    rw [get_merge, reverse_lookup h]
    rfl
  | _ =>
    unfold mergeDeliveryMetadata
    by_cases hobj : target.isObject = true
    · simp only [hobj, if_true]
      rfl
    · simp only [hobj, Bool.false_eq_true, if_false]
      rw [get_of_not_object (Bool.not_eq_true _ |>.mp hobj) key]
      rfl

end TelemetryHub
