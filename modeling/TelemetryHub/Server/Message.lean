import TelemetryHub.Core.Records

/-!
# Outbound messages

The message record of the server and the parts of its delivery metadata the
routing reads.
-/

namespace TelemetryHub

/-- `OutboundMessageRecord`: the fields of a stored message. -/
abbrev OutboundMessageRecord := MessageRecord

/-- `normalize_identity_key`. -/
def normalizeIdentityKey (identity : String) : Option String :=
  let value := toAsciiLowercase (trim identity)
  if value.isEmpty then none else some value

/-- `is_rem_command_channel`. -/
def isRemCommandChannel (channel : String) : Bool :=
  ["rem_checklist_command", "rem_log_command", "rem_eam_command", "rem_telemetry_command",
    "rem_marker_command", "rem_marker_link_command", "rem_zone_command"].contains channel

/-- `delivery_metadata.get("fanout_channel").and_then(Value::as_str)`. -/
def fanoutChannel (message : OutboundMessageRecord) : Option String :=
  (message.deliveryMetadata.get "fanout_channel").bind Value.asStr

/-- `is_rem_command_message`. -/
def isRemCommandMessage (message : OutboundMessageRecord) : Bool :=
  (fanoutChannel message).any isRemCommandChannel

/-- `preserves_requested_outbound_destination`. -/
def preservesRequestedOutboundDestination (message : OutboundMessageRecord) : Bool :=
  isRemCommandMessage message || (fanoutChannel message).any (· == "r3akt_delta")

/-- `outbound_target_destinations_from_metadata`. -/
def outboundTargetDestinationsFromMetadata (deliveryMetadata : Value) : Option (List String) :=
  ((deliveryMetadata.get "target_destinations").bind Value.asArray).map fun items =>
    (items.filterMap Value.asStr).filterMap normalizeIdentityKey

/-- `outbound_target_destinations`. -/
def outboundTargetDestinations (message : OutboundMessageRecord) : Option (List String) :=
  outboundTargetDestinationsFromMetadata message.deliveryMetadata

/-- `excluded_outbound_destinations`. -/
def excludedOutboundDestinations (message : OutboundMessageRecord) : List String :=
  (((message.deliveryMetadata.get "exclude_destinations").bind Value.asArray).map fun items =>
    ((items.filterMap Value.asStr).map trim).filter fun value => !value.isEmpty).getD []

end TelemetryHub
