import TelemetryHub.Server.Dispatch

/-!
# The ids of the copies

Each copy of a message that is not targeted gets an id of its own, made of the message's
id and of the first twelve ASCII letters and digits of the destination. The receipts of
the copies and the daemon's deduplication go by these ids, so two recipients must not
share one, and a recipient must keep its own from one round of retries to the next.
-/

namespace TelemetryHub

/-- What of a destination goes into the id of its copy. -/
def idPart (destination : String) : List Char := (destination.toList.filter fun c => c.isAlphanum).take 12

/-- The ids the copies of a message get. -/
def childIds (message : OutboundMessageRecord) (destinations : List String) : List String :=
  (recipientsFor message destinations).map Recipient.correlationId

variable {message : OutboundMessageRecord} {destination other : String}

theorem dispatchDestinationSuffix_of_part (part : idPart destination ≠ []) (index : Nat) :
    dispatchDestinationSuffix destination index = String.ofList (idPart destination) := by
  have full : (String.ofList (idPart destination)).isEmpty = false := by
    rw [String.isEmpty_eq_false_iff, ne_eq, String.ofList_eq_empty_iff]
    exact part
  show (if (String.ofList (idPart destination)).isEmpty then toString index else String.ofList (idPart destination)) = _
  rw [full, if_neg Bool.false_ne_true]

/-- A destination without letters and digits is told by its place in the list. -/
theorem dispatchDestinationSuffix_of_none (part : idPart destination = []) (index : Nat) :
    dispatchDestinationSuffix destination index = toString index := by
  show (if (String.ofList (idPart destination)).isEmpty then toString index else String.ofList (idPart destination)) = _
  rw [part]
  rfl

theorem outboundDispatchMessageId_inj (untargeted : message.deliveryMode ≠ .targeted) {index index' : Nat} :
    outboundDispatchMessageId message destination index = outboundDispatchMessageId message other index' ↔
      dispatchDestinationSuffix destination index = dispatchDestinationSuffix other index' := by
  unfold outboundDispatchMessageId
  rw [if_neg untargeted, if_neg untargeted]
  exact String.append_right_inj _

/-- A destination keeps its id exactly if there is something in it to tell it by. -/
theorem id_stable_iff (untargeted : message.deliveryMode ≠ .targeted) :
    (∀ index index', outboundDispatchMessageId message destination index =
      outboundDispatchMessageId message destination index') ↔ idPart destination ≠ [] := by
  constructor
  · intro stable none
    have same := (outboundDispatchMessageId_inj untargeted).1 (stable 0 1)
    rw [dispatchDestinationSuffix_of_none none, dispatchDestinationSuffix_of_none none] at same
    exact absurd same (by decide)
  · intro part index index'
    rw [outboundDispatchMessageId_inj untargeted, dispatchDestinationSuffix_of_part part,
      dispatchDestinationSuffix_of_part part]

/-- The ids, where every destination has something to tell it by. -/
theorem childIds_eq (untargeted : message.deliveryMode ≠ .targeted) {destinations : List String}
    (parts : ∀ destination ∈ destinations, idPart destination ≠ []) :
    childIds message destinations = destinations.map fun destination =>
      message.messageId ++ "-fanout-" ++ String.ofList (idPart destination) := by
  unfold childIds recipientsFor
  apply List.ext_getElem
  · simp
  · intro index inIds inDestinations
    rw [List.getElem_map, List.getElem_mapIdx, List.getElem_map]
    show outboundDispatchMessageId message _ index = _
    unfold outboundDispatchMessageId
    rw [if_neg untargeted, dispatchDestinationSuffix_of_part (parts _ (List.getElem_mem _))]

/-- The ids of the copies are distinct, and a destination gets the same one in every round
whatever its place in the list, exactly if every destination has an ASCII letter or digit
and no two agree in the first twelve of them. -/
theorem child_ids_distinct_and_stable_iff (untargeted : message.deliveryMode ≠ .targeted) (destinations : List String) :
    ((childIds message destinations).Nodup ∧ ∀ destination ∈ destinations, ∀ index index',
        outboundDispatchMessageId message destination index = outboundDispatchMessageId message destination index') ↔
      (∀ destination ∈ destinations, idPart destination ≠ []) ∧ (destinations.map idPart).Nodup := by
  have stable : (∀ destination ∈ destinations, ∀ index index',
      outboundDispatchMessageId message destination index = outboundDispatchMessageId message destination index') ↔
      ∀ destination ∈ destinations, idPart destination ≠ [] :=
    forall₂_congr fun destination _ => id_stable_iff untargeted
  rw [stable, and_comm]
  apply and_congr_right
  intro parts
  have injective : Function.Injective fun part : List Char => message.messageId ++ "-fanout-" ++ String.ofList part := by
    intro part part' same
    exact String.ofList_injective ((String.append_right_inj _).1 same)
  have through : childIds message destinations =
      (destinations.map idPart).map fun part => message.messageId ++ "-fanout-" ++ String.ofList part := by
    rw [childIds_eq untargeted parts, List.map_map]
    rfl
  rw [through, List.nodup_map_iff injective]

/-- A broadcast. -/
def broadcastNote : OutboundMessageRecord where
  messageId := "note"
  topicId := none
  destination := none
  sender := "northbound"
  content := "note"
  deliveryMode := .broadcast
  deliveryMethod := "direct"
  deliveryPolicyReason := "fresh_presence"
  deliveryState := "queued"
  deliveryMetadata := .object []
  createdTsMs := 0
  attachments := []

theorem child_ids_of_two :
    (childIds broadcastNote ["1335df708801", "77aa00bb11cc"]).Nodup ∧
      ∀ destination ∈ ["1335df708801", "77aa00bb11cc"], ∀ index index',
        outboundDispatchMessageId broadcastNote destination index =
          outboundDispatchMessageId broadcastNote destination index' :=
  (child_ids_distinct_and_stable_iff (by decide) _).2 ⟨by decide +kernel, by decide +kernel⟩

/-- Two destinations that differ behind the twelfth digit share an id. -/
theorem child_id_shared :
    broadcastNote.deliveryMode ≠ .targeted ∧
      ["1335df708801aa00000000000000beef", "1335df708801bb00000000000000cafe"].Nodup ∧
      ¬(childIds broadcastNote
        ["1335df708801aa00000000000000beef", "1335df708801bb00000000000000cafe"]).Nodup := by
  decide +kernel

end TelemetryHub
