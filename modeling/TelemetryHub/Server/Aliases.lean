import TelemetryHub.Lib.Latest
import TelemetryHub.Server.Message

/-!
# Delivery aliases

Chat for a REM application goes to the LXMF destination its peer announces, and
chat for a peer with a telephone to that. The two are found by the name in the
announces, so whoever announces a name competes for its messages.
-/

namespace TelemetryHub

open Lib

/-! ## The alias table -/

/-- The announce comes from a REM application. -/
def IdentityAnnounceRecord.isRem (record : IdentityAnnounceRecord) : Bool :=
  eqIgnoreAsciiCase (trim record.clientType) "rem"

/-- `is_known_pixel_voice_destination`. -/
def isKnownPixelVoiceDestination (destinationHash : String) : Bool :=
  startsWith (toAsciiLowercase (trim destinationHash)) "77b253"

/-- `str::replace("%20", " ")` on the characters. -/
def unescapeSpaces : List Char → List Char
  | '%' :: '2' :: '0' :: rest => ' ' :: unescapeSpaces rest
  | c :: rest => c :: unescapeSpaces rest
  | [] => []

/-- `normalize_chat_peer_name`. -/
def normalizeChatPeerName (value : String) : Option String :=
  let value := trim (String.ofList (unescapeSpaces (trim value).toList))
  if value.isEmpty then none else some (toAsciiLowercase value)

/-- `str::strip_prefix`. -/
def stripPrefix (s pre : String) : Option String :=
  if startsWith s pre then some (String.ofList (s.toList.drop pre.length)) else none

/-- What follows the last occurrence of `sep`: `str::rsplit_once`, second half. -/
def afterLast (sep : List Char) : List Char → Option (List Char)
  | [] => none
  | c :: cs => (afterLast sep cs).or
      (if sep.isPrefixOf (c :: cs) then some ((c :: cs).drop sep.length) else none)

/-- `identity_announce_chat_peer_name`. -/
def identityAnnounceChatPeerName (record : IdentityAnnounceRecord) : Option String :=
  (((record.announceCapabilities.findSome? fun c => stripPrefix c "name=").bind normalizeChatPeerName).or
    ((record.displayName.bind fun name => (afterLast ";name=".toList name.toList).map String.ofList).bind
      normalizeChatPeerName)).or
    (record.displayName.bind normalizeChatPeerName)

/-- `identity_announce_has_voice_capability`. -/
def identityAnnounceHasVoiceCapability (record : IdentityAnnounceRecord) : Bool :=
  record.announceCapabilities.any fun capability =>
    ["telephony", "voice", "_announce_telephony"].contains (toAsciiLowercase (trim capability))

/-- The name whose telephone the announce is, if it is one. -/
def identityAnnounceVoiceOwnerName (record : IdentityAnnounceRecord) : Option String :=
  if isKnownPixelVoiceDestination record.destinationHash then some "pixel"
  else if identityAnnounceHasVoiceCapability record then identityAnnounceChatPeerName record
  else none

/-- What the announce offers for a name. -/
def IdentityAnnounceRecord.offerFor (record : IdentityAnnounceRecord) (name : Option String) :
    Option (Offer String String) :=
  if record.isRem then none else name.map fun name => ⟨name, record.destinationHash, record.lastSeenTsMs⟩

/-- `lxmf_delivery_by_name` and `voice_by_name`. -/
structure DeliveryNames where
  lxmfDeliveryByName : Dict String (String × Int)
  voiceByName : Dict String (String × Int)

/-- One round of the first loop. -/
def DeliveryNames.learn (names : DeliveryNames) (record : IdentityAnnounceRecord) : DeliveryNames where
  lxmfDeliveryByName :=
    names.lxmfDeliveryByName.offer (record.offerFor (identityAnnounceChatPeerName record))
  voiceByName := names.voiceByName.offer (record.offerFor (identityAnnounceVoiceOwnerName record))

/-- The first loop. -/
def deliveryNames (announces : List IdentityAnnounceRecord) : DeliveryNames :=
  announces.foldl DeliveryNames.learn ⟨∅, ∅⟩

/-- The names a record is looked up in: a REM application looks for its LXMF
destination, any other peer for its telephone. -/
def DeliveryNames.forRecord (names : DeliveryNames) (record : IdentityAnnounceRecord) :
    Dict String (String × Int) :=
  if record.isRem then names.lxmfDeliveryByName else names.voiceByName

/-- The destination that stands for the record's own in chat. -/
def DeliveryNames.target (names : DeliveryNames) (record : IdentityAnnounceRecord) : Option String :=
  (identityAnnounceChatPeerName record).bind fun name =>
    (((names.forRecord record).get name).filter fun held => record.lastSeenTsMs ≤ held.2).map Prod.fst

/-- One round of the second loop. -/
def DeliveryNames.alias (names : DeliveryNames) (aliases : Dict String String)
    (record : IdentityAnnounceRecord) : Dict String String :=
  match normalizeIdentityKey record.destinationHash, (names.target record).bind normalizeIdentityKey with
  | some sourceDestination, some deliveryDestination =>
    if sourceDestination ≠ deliveryDestination then aliases.insert sourceDestination deliveryDestination
    else aliases
  | _, _ => aliases

/-- `chat_delivery_destination_aliases_from_announces`. -/
def chatDeliveryDestinationAliases (announces : List IdentityAnnounceRecord) : Dict String String :=
  announces.foldl (deliveryNames announces).alias ∅

/-- The destination as the routing writes it. -/
def requestedDestination (destination : String) : String :=
  (normalizeIdentityKey destination).getD (trim destination)

/-- `destination_is_rem_app_identity_for_state`, on a destination that is normal. -/
def isRemAppDestination (announces : List IdentityAnnounceRecord) (destination : String) : Bool :=
  announces.any fun record =>
    record.isRem && normalizeIdentityKey record.destinationHash == some destination

/-- `outbound_destination_for_message`, and with the context of all announces
`outbound_destination_for_message_with_context`. -/
def outboundDestinationForMessage (announces : List IdentityAnnounceRecord) (message : OutboundMessageRecord)
    (destination : String) : String :=
  let normalized := requestedDestination destination
  if preservesRequestedOutboundDestination message then normalized
  else if message.deliveryMode = .broadcast ∧ isRemAppDestination announces normalized then normalized
  else ((chatDeliveryDestinationAliases announces).get normalized).getD normalized

/-! ## One more announce -/

/-- The offer the announce makes where a record of this kind looks. -/
def IdentityAnnounceRecord.offerTo (announce record : IdentityAnnounceRecord) :
    Option (Offer String String) :=
  announce.offerFor (if record.isRem then identityAnnounceChatPeerName announce
    else identityAnnounceVoiceOwnerName announce)

/-- The announce competes for the record's messages: it offers a destination
under the record's name and was seen no earlier than the record. -/
def Outbids (announce record : IdentityAnnounceRecord) : Prop :=
  ∃ offer ∈ announce.offerTo record,
    identityAnnounceChatPeerName record = some offer.key ∧ record.lastSeenTsMs ≤ offer.stamp

theorem learn_forRecord (names : DeliveryNames) (announce record : IdentityAnnounceRecord) :
    (names.learn announce).forRecord record = (names.forRecord record).offer (announce.offerTo record) := by
  unfold DeliveryNames.forRecord IdentityAnnounceRecord.offerTo DeliveryNames.learn
  by_cases hrem : record.isRem = true
  · simp only [hrem, if_true]
  · simp only [hrem, if_false, Bool.false_eq_true]

/-- After any further announces the two tables of names differ by the one announce at most. -/
theorem outbid_learn (announce record : IdentityAnnounceRecord) (name : String)
    (later : List IdentityAnnounceRecord) (names names' : DeliveryNames)
    (h : Dict.Outbid (announce.offerTo record) (names.forRecord record) (names'.forRecord record) name) :
    Dict.Outbid (announce.offerTo record) ((later.foldl DeliveryNames.learn names).forRecord record)
      ((later.foldl DeliveryNames.learn names').forRecord record) name := by
  induction later generalizing names names' with
  | nil => exact h
  | cons r later ih =>
    rw [List.foldl_cons, List.foldl_cons]
    have hr := h.offer (r.offerTo record)
    rw [← learn_forRecord, ← learn_forRecord] at hr
    exact ih _ _ hr

theorem outbid_deliveryNames (announce record : IdentityAnnounceRecord) (name : String)
    (before after : List IdentityAnnounceRecord) :
    Dict.Outbid (announce.offerTo record) ((deliveryNames (before ++ after)).forRecord record)
      ((deliveryNames (before ++ announce :: after)).forRecord record) name := by
  unfold deliveryNames
  rw [List.foldl_append, List.foldl_append, List.foldl_cons]
  apply outbid_learn
  rw [learn_forRecord]
  exact Dict.outbid_offer _ _ _

/-- The record's target is the same, or the announce outbids it and is the target. -/
theorem target_after_announce (announce record : IdentityAnnounceRecord)
    (before after : List IdentityAnnounceRecord) :
    (deliveryNames (before ++ announce :: after)).target record =
        (deliveryNames (before ++ after)).target record ∨
      Outbids announce record ∧
        (deliveryNames (before ++ announce :: after)).target record = some announce.destinationHash := by
  unfold DeliveryNames.target
  cases hname : identityAnnounceChatPeerName record with
  | none =>
    left
    simp only [Option.bind_none]
  | some name =>
    simp only [Option.bind_some]
    obtain heq | ⟨offer, hoffer, rfl, hget, hlate⟩ := outbid_deliveryNames announce record name before after
    · left
      rw [heq]
    · rw [hget]
      by_cases hseen : record.lastSeenTsMs ≤ offer.stamp
      · refine .inr ⟨⟨offer, hoffer, hname, hseen⟩, ?_⟩
        have hvalue : offer.value = announce.destinationHash := by
          unfold IdentityAnnounceRecord.offerTo IdentityAnnounceRecord.offerFor at hoffer
          split at hoffer
          · cases hoffer
          · obtain ⟨name, -, rfl⟩ := Option.map_eq_some_iff.1 hoffer
            rfl
        simp [hseen, hvalue]
      · -- what the first table has is no later than the announce, so neither passes the filter
        left
        have hstale : (((deliveryNames (before ++ after)).forRecord record).get offer.key).filter
            (fun held => record.lastSeenTsMs ≤ held.2) = none := by
          rw [Option.filter_eq_none_iff]
          intro held hheld
          have := hlate held hheld
          simp only [decide_eq_true_eq]
          omega
        rw [hstale]
        simp [Int.not_le.1 hseen]

/-- The two alias tables at a destination: the same, or an announce of that
destination is outbid and the messages go to the one that outbids it. -/
def Redirected (announces : List IdentityAnnounceRecord) (announce : IdentityAnnounceRecord)
    (destination : String) (aliases aliases' : Dict String String) : Prop :=
  aliases'.get destination = aliases.get destination ∨
    (∃ record ∈ announces, normalizeIdentityKey record.destinationHash = some destination ∧
      Outbids announce record) ∧
    ∀ own, normalizeIdentityKey announce.destinationHash = some own → aliases'.get destination = some own

theorem alias_get_of_ne {names : DeliveryNames} {aliases : Dict String String}
    {record : IdentityAnnounceRecord} {destination : String}
    (h : normalizeIdentityKey record.destinationHash ≠ some destination) :
    (names.alias aliases record).get destination = aliases.get destination := by
  unfold DeliveryNames.alias
  split
  · next source delivery hsource _ =>
    split
    · refine Dict.get_insert_ne fun heq => h ?_
      rw [hsource, heq]
    · rfl
  · rfl

/-- One round of the second loop on either table. -/
theorem Redirected.alias {before after : List IdentityAnnounceRecord}
    {announce record : IdentityAnnounceRecord} {destination : String} {aliases aliases' : Dict String String}
    (unrelated : normalizeIdentityKey announce.destinationHash ≠ some destination)
    (hrecord : record ∈ before ++ after)
    (h : Redirected (before ++ after) announce destination aliases aliases') :
    Redirected (before ++ after) announce destination
      ((deliveryNames (before ++ after)).alias aliases record)
      ((deliveryNames (before ++ announce :: after)).alias aliases' record) := by
  by_cases hown : normalizeIdentityKey record.destinationHash = some destination
  swap
  · unfold Redirected
    rw [alias_get_of_ne hown, alias_get_of_ne hown]
    exact h
  · obtain heq | ⟨houtbids, htarget⟩ := target_after_announce announce record before after
    · -- the same target on both sides: written on both or on neither
      unfold DeliveryNames.alias
      rw [heq, hown]
      cases ((deliveryNames (before ++ after)).target record).bind normalizeIdentityKey with
      | none => exact h
      | some delivery =>
        by_cases hne : destination ≠ delivery
        · left
          simp only [if_pos hne, Dict.get_insert_self]
        · simpa only [if_neg hne] using h
    · right
      refine ⟨⟨record, hrecord, hown, houtbids⟩, fun own hkey => ?_⟩
      have hne : destination ≠ own := fun heq => unrelated (by rw [hkey, heq])
      unfold DeliveryNames.alias
      rw [htarget, hown, Option.bind_some, hkey]
      simp only [if_pos hne, Dict.get_insert_self]

theorem redirected_foldl {before after : List IdentityAnnounceRecord} {announce : IdentityAnnounceRecord}
    {destination : String} (unrelated : normalizeIdentityKey announce.destinationHash ≠ some destination)
    (records : List IdentityAnnounceRecord) (hrecords : ∀ record ∈ records, record ∈ before ++ after)
    (aliases aliases' : Dict String String)
    (h : Redirected (before ++ after) announce destination aliases aliases') :
    Redirected (before ++ after) announce destination
      (records.foldl (deliveryNames (before ++ after)).alias aliases)
      (records.foldl (deliveryNames (before ++ announce :: after)).alias aliases') := by
  induction records generalizing aliases aliases' with
  | nil => exact h
  | cons r records ih =>
    rw [List.foldl_cons, List.foldl_cons]
    exact ih (fun record hmem => hrecords record (List.mem_cons_of_mem _ hmem)) _ _
      (h.alias unrelated (hrecords r List.mem_cons_self))

/-- The alias tables with and without one announce of another destination. -/
theorem aliases_after_announce {before after : List IdentityAnnounceRecord}
    {announce : IdentityAnnounceRecord} {destination : String}
    (unrelated : normalizeIdentityKey announce.destinationHash ≠ some destination) :
    Redirected (before ++ after) announce destination
      (chatDeliveryDestinationAliases (before ++ after))
      (chatDeliveryDestinationAliases (before ++ announce :: after)) := by
  unfold chatDeliveryDestinationAliases
  rw [List.foldl_append, List.foldl_append, List.foldl_cons]
  refine redirected_foldl unrelated after (fun _ h => List.mem_append_right _ h) _ _ ?_
  have hbefore := @redirected_foldl before after announce destination unrelated before
    (fun _ h => List.mem_append_left _ h) ∅ ∅ (.inl rfl)
  unfold Redirected
  rw [alias_get_of_ne unrelated]
  exact hbefore

/-- An announce of another destination leaves where a message goes as it was,
unless it outbids an announce of the destination asked for; then the message
goes there still, or to the one that outbids it. -/
theorem delivery_after_announce (before after : List IdentityAnnounceRecord)
    (announce : IdentityAnnounceRecord) (message : OutboundMessageRecord) (destination : String)
    (unrelated : normalizeIdentityKey announce.destinationHash ≠ some (requestedDestination destination)) :
    outboundDestinationForMessage (before ++ announce :: after) message destination =
        outboundDestinationForMessage (before ++ after) message destination ∨
      (∃ record ∈ before ++ after,
        normalizeIdentityKey record.destinationHash = some (requestedDestination destination) ∧
          Outbids announce record) ∧
      ∀ own, normalizeIdentityKey announce.destinationHash = some own →
        outboundDestinationForMessage (before ++ announce :: after) message destination = own := by
  have hrem : isRemAppDestination (before ++ announce :: after) (requestedDestination destination) =
      isRemAppDestination (before ++ after) (requestedDestination destination) := by
    unfold isRemAppDestination
    have hown : (normalizeIdentityKey announce.destinationHash ==
        some (requestedDestination destination)) = false := beq_eq_false_iff_ne.2 unrelated
    rw [List.any_append, List.any_append, List.any_cons, hown, Bool.and_false, Bool.false_or]
  unfold outboundDestinationForMessage
  simp only [hrem]
  by_cases hkeep : preservesRequestedOutboundDestination message = true
  · left
    simp only [hkeep, if_true]
  · simp only [hkeep, Bool.false_eq_true, if_false]
    split
    · exact .inl rfl
    · obtain heq | ⟨hrecord, hown⟩ := aliases_after_announce unrelated
      · left
        rw [heq]
      · refine .inr ⟨hrecord, fun own hkey => ?_⟩
        rw [hown own hkey, Option.getD_some]

/-- The announce is of none of the record's destinations and of another identity. -/
def Unrelated (announces : List IdentityAnnounceRecord) (announce record : IdentityAnnounceRecord) : Prop :=
  announce.announcedIdentityHash ≠ record.announcedIdentityHash ∧
    ∀ other ∈ announces, other.announcedIdentityHash = record.announcedIdentityHash →
      normalizeIdentityKey announce.destinationHash ≠ normalizeIdentityKey other.destinationHash

instance (announces : List IdentityAnnounceRecord) (announce record : IdentityAnnounceRecord) :
    Decidable (Unrelated announces announce record) := by
  unfold Unrelated
  infer_instance

/-- A REM application of the peer S8. -/
def remApplication : IdentityAnnounceRecord where
  destinationHash := "47ff8b43fea7df9082f6fc1e2b8c954b"
  announcedIdentityHash := some "aaaaaaaaaaaaaaaaaaaaaaaaaaaaaaaa"
  displayName := some "R3AKT,EMergencyMessages,Telemetry;name=S8"
  sourceInterface := some "reticulumd"
  announceCapabilities := ["r3akt", "emergencymessages", "telemetry", "name=s8"]
  clientType := "rem"
  firstSeenTsMs := 1000
  lastSeenTsMs := 1000

/-- An LXMF client of somebody else that calls itself S8. -/
def namesakeClient : IdentityAnnounceRecord where
  destinationHash := "6260c6f540c86f7296c4909353615862"
  announcedIdentityHash := some "bbbbbbbbbbbbbbbbbbbbbbbbbbbbbbbb"
  displayName := some "S8"
  sourceInterface := some "reticulumd"
  announceCapabilities := []
  clientType := "generic_lxmf"
  firstSeenTsMs := 2000
  lastSeenTsMs := 2000

/-- A chat message to one destination. -/
def plainChat : OutboundMessageRecord where
  messageId := "m"
  topicId := none
  destination := some "47ff8b43fea7df9082f6fc1e2b8c954b"
  sender := "northbound"
  content := "plain chat"
  deliveryMode := .targeted
  deliveryMethod := "direct"
  deliveryPolicyReason := "default_direct"
  deliveryState := "queued"
  deliveryMetadata := .object []
  createdTsMs := 0
  attachments := []

theorem delivery_after_announce_of_namesake :
    outboundDestinationForMessage ([remApplication] ++ namesakeClient :: []) plainChat
        "47ff8b43fea7df9082f6fc1e2b8c954b" =
        outboundDestinationForMessage ([remApplication] ++ []) plainChat "47ff8b43fea7df9082f6fc1e2b8c954b" ∨
      (∃ record ∈ [remApplication] ++ [],
        normalizeIdentityKey record.destinationHash =
            some (requestedDestination "47ff8b43fea7df9082f6fc1e2b8c954b") ∧
          Outbids namesakeClient record) ∧
      ∀ own, normalizeIdentityKey namesakeClient.destinationHash = some own →
        outboundDestinationForMessage ([remApplication] ++ namesakeClient :: []) plainChat
          "47ff8b43fea7df9082f6fc1e2b8c954b" = own :=
  delivery_after_announce [remApplication] [] namesakeClient plainChat "47ff8b43fea7df9082f6fc1e2b8c954b"
    (by decide +kernel)

/-- A name is enough: the messages of the REM application go to the namesake. -/
theorem namesake_takes_messages :
    ¬ ∀ (before after : List IdentityAnnounceRecord) (announce record : IdentityAnnounceRecord)
        (message : OutboundMessageRecord),
      record ∈ before ++ after → Unrelated (before ++ after) announce record →
        outboundDestinationForMessage (before ++ announce :: after) message record.destinationHash =
          outboundDestinationForMessage (before ++ after) message record.destinationHash := by
  intro isolated
  have hsame := isolated [remApplication] [] namesakeClient remApplication plainChat
    (List.mem_singleton.2 rfl) (by decide +kernel)
  exact absurd hsame (by decide +kernel)

end TelemetryHub
