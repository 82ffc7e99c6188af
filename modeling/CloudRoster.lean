import CloudRoster.Main
import CloudRoster.Proofs.Discovery.Course
import CloudRoster.Proofs.Discovery.Selection
import CloudRoster.Proofs.Provider.Refinement
import CloudRoster.Proofs.Provider.Inquiry
import CloudRoster.Proofs.Provider.Unreadable
import CloudRoster.Proofs.Provider.Gathering
import CloudRoster.Proofs.Provider.FailFast
import CloudRoster.Proofs.Provider.AllOrNothing
import CloudRoster.Proofs.Http.Endpoint
import CloudRoster.Proofs.Provider.Target
import CloudRoster.Proofs.Provider.Alike
import CloudRoster.Proofs.Roster.Credential
import CloudRoster.Proofs.Roster.Secrecy
import CloudRoster.Proofs.Json.Occurrence
import CloudRoster.Proofs.Provider.Conformity
import CloudRoster.Proofs.Json.Alteration
import CloudRoster.Proofs.Provider.Call
import CloudRoster.Proofs.Provider.Revision
import CloudRoster.Proofs.Roster.Wording
import CloudRoster.Proofs.Roster.Terminal
import CloudRoster.Proofs.Roster.Agreement
import CloudRoster.Proofs.Provider.FirstRequest
import CloudRoster.Proofs.Roster.Validation
import CloudRoster.Proofs.Discovery.Policy
import CloudRoster.Proofs.Discovery.Journal
import CloudRoster.Proofs.Provider.Script
import CloudRoster.Proofs.Provider.Join
import CloudRoster.Proofs.Provider.Filtering
import CloudRoster.Proofs.Arguments.Acceptance
import CloudRoster.Proofs.Arguments.Order
import CloudRoster.Proofs.Arguments.Visit
import CloudRoster.Proofs.Arguments.Line
import CloudRoster.Proofs.Settings.Resolution
import CloudRoster.Proofs.Provider.Origin
import CloudRoster.Proofs.Provider.Reading
import CloudRoster.Proofs.Provider.Classification
import CloudRoster.Proofs.Provider.Lookup
