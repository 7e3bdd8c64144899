import Roster.Account
import Roster.Authorization
import Roster.Contact
import Roster.ContactList
import Roster.Correlator
import Roster.Double
import Roster.Failure
import Roster.Json
import Roster.Json.Doc
import Roster.Json.Shape
import Roster.Json.Tree
import Roster.Listener
import Roster.Listener.Script
import Roster.Logging
import Roster.Message
import Roster.Notice
import Roster.Proofs.Asking
import Roster.Proofs.AwaitingGroup
import Roster.Proofs.Chronicle
import Roster.Proofs.Clockwork
import Roster.Proofs.Confirmed
import Roster.Proofs.Consent
import Roster.Proofs.Consistency
import Roster.Proofs.Course
import Roster.Proofs.Course.Time
import Roster.Proofs.Decoding
import Roster.Proofs.Dispatch
import Roster.Proofs.Documents
import Roster.Proofs.Edits
import Roster.Proofs.Entries
import Roster.Proofs.Heard
import Roster.Proofs.Independence
import Roster.Proofs.Inquiry
import Roster.Proofs.Layers
import Roster.Proofs.Ledger
import Roster.Proofs.Line
import Roster.Proofs.Line.Deeds
import Roster.Proofs.Listing
import Roster.Proofs.Listing.Handshake
import Roster.Proofs.Lodgers
import Roster.Proofs.News
import Roster.Proofs.Objections
import Roster.Proofs.Origin
import Roster.Proofs.Outline
import Roster.Proofs.OwnPresence
import Roster.Proofs.Parking
import Roster.Proofs.Passing
import Roster.Proofs.PollPass
import Roster.Proofs.PollerLife
import Roster.Proofs.PresenceChain
import Roster.Proofs.Publishing
import Roster.Proofs.QueryOutcome
import Roster.Proofs.Quiet
import Roster.Proofs.ReRequests
import Roster.Proofs.Readings
import Roster.Proofs.Receipts
import Roster.Proofs.Refusal
import Roster.Proofs.Registries
import Roster.Proofs.Removal
import Roster.Proofs.RootTwin
import Roster.Proofs.RoundTrip
import Roster.Proofs.Runs
import Roster.Proofs.Steps
import Roster.Proofs.Supported
import Roster.Proofs.Sweep
import Roster.Proofs.Unasked
import Roster.Proofs.Waiting
import Roster.Proofs.Overrides
import Roster.Proofs.Words
import Roster.Proofs.Wire.Records
import Roster.Proofs.Wire.Spelling
import Roster.Proofs.Wire.Tags
import Roster.Proofs.Wire.Text
import Roster.Session
import Roster.Session.Assembly
import Roster.Session.Clock
import Roster.Session.Directory
import Roster.Session.Handshake
import Roster.Session.Poll
import Roster.Session.Presence
import Roster.Session.Registration
import Roster.Session.Step
import Roster.Session.Subscription
import Roster.Settings
import Roster.Settings.Reader
import Roster.Settings.Source
import Roster.Settings.Tree
import Roster.Settings.Variables
import Roster.Status
import Roster.Status.Mask
import Roster.Text.Blank
import Roster.Text.Decimal
import Roster.Text.Hex
import Roster.Text.Quoted
import Roster.Text.Unprintable
import Roster.Timestamp
import Roster.Toml
import Roster.Toml.Outline
import Roster.Toml.Scalar
import Roster.Toml.Text
import Roster.Toml.Value
import Roster.Wire.Entity
import Roster.Wire.Message
import Roster.Wire.Notice
import Roster.Word
import Roster.Proofs.Visits
import Roster.Proofs.Wire.Entities
import Roster.Proofs.Wire.Messages
import Roster.Proofs.Wire.Changes
import Roster.Proofs.Wire.RoundTrips
