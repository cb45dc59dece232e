import TelemetryHub.Core.Dispatch
import TelemetryHub.Access.Denial
import TelemetryHub.Core.Logic
import TelemetryHub.Edits.Markers
import TelemetryHub.Core.Normal
import TelemetryHub.Edits.Journal
import TelemetryHub.Edits.Roster
import TelemetryHub.Edits.Topics
import TelemetryHub.Edits.Missions
import TelemetryHub.Edits.Logs
import TelemetryHub.Edits.Eam
import TelemetryHub.Edits.Teams
import TelemetryHub.Edits.Rights
import TelemetryHub.Edits.Assets
import TelemetryHub.Edits.Rows
import TelemetryHub.Lib.Latest
import TelemetryHub.Server.Aliases
import TelemetryHub.Server.Metadata
import TelemetryHub.Lib.FirstMatch
import TelemetryHub.Server.Delivery
import TelemetryHub.Server.Callbacks
import TelemetryHub.Server.Logic
import TelemetryHub.Server.Reports
import TelemetryHub.Server.Announces
import TelemetryHub.Server.Freshness
import TelemetryHub.Server.Imports
import TelemetryHub.Server.Clients
import TelemetryHub.Server.Recipients
import TelemetryHub.Server.Dispatch
import TelemetryHub.Server.Worker
import TelemetryHub.Server.Account
import TelemetryHub.Server.Rounds
import TelemetryHub.Server.Fanout
import TelemetryHub.Server.Receipts
import TelemetryHub.Lib.Budget
import TelemetryHub.Server.Retries
import TelemetryHub.Server.Batches
import TelemetryHub.Server.Authenticity
import TelemetryHub.Transport.Poll
import TelemetryHub.Transport.TelemetryNesting
import TelemetryHub.Bridge.Requests
import TelemetryHub.Bridge.Responses
import TelemetryHub.Server.Listeners
import TelemetryHub.Server.KillSwitch
import TelemetryHub.Server.Symbols
import TelemetryHub.Server.Zones
import TelemetryHub.Lib.Segments
import TelemetryHub.Server.Rings
import TelemetryHub.Server.Purge
import TelemetryHub.Lib.Entries
import TelemetryHub.Runs.Commands
import TelemetryHub.Runs.ChecklistTables
import TelemetryHub.Runs.Counts
import TelemetryHub.Edits.Checklists
import TelemetryHub.Runs.Links
import TelemetryHub.Runs.Mirrors
import TelemetryHub.Runs.Composites
import TelemetryHub.Runs.Callsigns
import TelemetryHub.Lib.References
import TelemetryHub.Runs.References
import TelemetryHub.Runs.Refusals
import TelemetryHub.Runs.Reports
import TelemetryHub.Server.ChildIds
import TelemetryHub.Lib.MessagePack
import TelemetryHub.Server.Capabilities
import TelemetryHub.Server.Scan
import TelemetryHub.Server.Lockout
import TelemetryHub.Server.Freshest
import TelemetryHub.Server.Follow
import TelemetryHub.Server.Enrolment
import TelemetryHub.Server.SavedSettings
import TelemetryHub.Server.TeamIsolation
import TelemetryHub.Tak.Outbound
import TelemetryHub.Server.Secrets
import TelemetryHub.Transport.Sending
import TelemetryHub.Server.ReportedAt
import TelemetryHub.Transport.FieldCommands
import TelemetryHub.Transport.AttachmentsRead
import TelemetryHub.Core.Snapshot
import TelemetryHub.Lib.Forest
import TelemetryHub.Edits.MissionWrites
import TelemetryHub.Runs.Parents
import TelemetryHub.Core.Vocabularies
import TelemetryHub.Edits.Sheets
import TelemetryHub.Edits.SheetCommands
import TelemetryHub.Runs.Sheets
import TelemetryHub.Runs.Answers
import TelemetryHub.Runs.Targets
import TelemetryHub.Runs.Grid
import TelemetryHub.Runs.DueColumns
import TelemetryHub.Edits.Enumerations
import TelemetryHub.Runs.Vocabularies
import TelemetryHub.Edits.Import
import TelemetryHub.Runs.Import
import TelemetryHub.Lib.Maintained
import TelemetryHub.Lib.Filing
import TelemetryHub.Lib.DeltaSave
import TelemetryHub.Edits.SheetKeys
import TelemetryHub.Core.WholeSnapshot
import TelemetryHub.Runs.Restored
import TelemetryHub.Server.Writers
import TelemetryHub.Lib.Sliding
import TelemetryHub.Lib.Moving
import TelemetryHub.Server.InboundWrites
import TelemetryHub.Server.Traffic
import TelemetryHub.Server.Redelivery
import TelemetryHub.Server.Polls
import TelemetryHub.Transport.DataPlaneServed
import TelemetryHub.Tak.ReadBack
import TelemetryHub.Identity.Trust
import TelemetryHub.Core.DecodedText
