import TelemetryHub.Lib.Base64
import TelemetryHub.Server.Batches

/-!
# Whose message it is

The record of a message carries the source that the transport has it from. The envelope made
of it has a source of its own, by which it is recorded, relayed and authorised.
-/

namespace TelemetryHub

open Lib ServerM

/-- The record that an event of the daemon is about. -/
def eventMessage (event : ReticulumdEvent) : Value := (event.payload.get "message").getD event.payload

/-- An event of an inbound message. -/
def ReticulumdEvent.IsInbound (event : ReticulumdEvent) : Prop :=
  event.eventType = "inbound" ∨ event.eventType = "InboundMessageReceived"

instance decidableIsInbound (event : ReticulumdEvent) : Decidable event.IsInbound :=
  inferInstanceAs (Decidable (_ ∨ _))

section

variable [ServerHost]

end

/-! ## A forged source -/

end TelemetryHub
