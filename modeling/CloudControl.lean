import CloudControl.Main
import CloudControl.Simulator.Link
import CloudControl.Client.Session
import CloudControl.Schema.Records
import CloudControl.Proofs.Auth.Canonical
import CloudControl.Proofs.Auth.Expiry
import CloudControl.Proofs.Auth.Parameters
import CloudControl.Proofs.Calendar.Date
import CloudControl.Proofs.Calendar.Instant
import CloudControl.Proofs.Calendar.Reader
import CloudControl.Proofs.Client.SignedRequest
import CloudControl.Proofs.Form
import CloudControl.Proofs.Json.Members
import CloudControl.Proofs.Simulator.Run
import CloudControl.Proofs.Simulator.Sessions
import CloudControl.Proofs.Text.Base64
import CloudControl.Proofs.Text.Folding
import CloudControl.Proofs.Text.Joined
import CloudControl.Proofs.Text.Numeral
import CloudControl.Proofs.Text.Utf8
import CloudControl.Proofs.Pagination
import CloudControl.Proofs.Simulator.Jobs
import CloudControl.Proofs.Client.Calls
import CloudControl.Proofs.Client.Fallback
import CloudControl.Proofs.Params
import CloudControl.Proofs.Simulator.Listing
import CloudControl.Proofs.Client.ListingRequest
import CloudControl.Proofs.Client.Envelope
import CloudControl.Proofs.Client.Paging
import CloudControl.Proofs.Schema.Decode
import CloudControl.Proofs.Schema.Records
import CloudControl.Proofs.Schema.Reencoding
import CloudControl.Proofs.Schema.Acceptance
import CloudControl.Proofs.Options
import CloudControl.Proofs.Client.Requests
import CloudControl.Proofs.Operations
import CloudControl.Proofs.Json.Strings
import CloudControl.Proofs.Json.RoundTrip
import CloudControl.Proofs.Simulator.Refusals
import CloudControl.Proofs.Client.Exchange
import CloudControl.Proofs.Client.RawCommands
import CloudControl.Proofs.Client.Sessions
import CloudControl.Proofs.Client.JobWait
import CloudControl.Proofs.Client.Unwrapping
import CloudControl.Proofs.Client.Transmission
import CloudControl.Proofs.CommandLine.NamedProfile
import CloudControl.Proofs.Profiles.Consistency
import CloudControl.Proofs.Pagination.AnySource
import CloudControl.Proofs.Client.JobAnswers
import CloudControl.Proofs.Client.WaitHistory
import CloudControl.Proofs.Simulator.Selection
import CloudControl.Proofs.Auth.Reordering
import CloudControl.Proofs.Auth.Resigning
import CloudControl.Proofs.Calendar.Notations
import CloudControl.Proofs.Options.ListSetters
import CloudControl.Proofs.Schema.Cidrs
import CloudControl.Proofs.Profiles.Places
import CloudControl.Proofs.Profiles.Creation
import CloudControl.Proofs.Client.Entities
import CloudControl.Proofs.Simulator.Recordings
import CloudControl.Proofs.Schema.Codes
import CloudControl.Proofs.Client.JobResults
import CloudControl.Proofs.Url.Query
