import OrgFederation.Deployment.Round
import OrgFederation.Main
import OrgFederation.Reconciliation.Rehearsal
import OrgFederation.Proofs.Deployment.Provenance
import OrgFederation.Proofs.Pass.Cancellation
import OrgFederation.Proofs.Pass.Containment
import OrgFederation.Proofs.Pass.Grants
import OrgFederation.Proofs.Pass.Protocol
import OrgFederation.Proofs.Pass.Settling
import OrgFederation.Proofs.Reconciliation.Contract
import OrgFederation.Proofs.Reconciliation.History
import OrgFederation.Proofs.Reconciliation.Quiescence
import OrgFederation.Proofs.Deployment.Standstill
import OrgFederation.Proofs.Json.Objects
import OrgFederation.Proofs.Json.Renditions
import OrgFederation.Proofs.Management.Reported
import OrgFederation.Proofs.Time.Calendar
import OrgFederation.Proofs.Time.Written
import OrgFederation.Proofs.Json.RoundTrip
import OrgFederation.Proofs.Json.Yields
import OrgFederation.Proofs.Json.MergePatch
import OrgFederation.Proofs.Resource.Generation
import OrgFederation.Proofs.Resource.Written
import OrgFederation.Proofs.Reconciliation.Patching
import OrgFederation.Proofs.Json.Members
import OrgFederation.Proofs.Json.Rendered
import OrgFederation.Proofs.Json.Values
import OrgFederation.Proofs.Management.Provider
import OrgFederation.Proofs.Json.ReadsBack
import OrgFederation.Proofs.Wire
import OrgFederation.Proofs.Account.Endings
import OrgFederation.Proofs.Deployment.Rewriting
import OrgFederation.Proofs.Account.Disguise
import OrgFederation.Proofs.Account.Secrecy
import OrgFederation.Proofs.Reconciliation.Simulation
import OrgFederation.Proofs.Deployment.Secrecy
import OrgFederation.Proofs.Account.Addresses
import OrgFederation.Proofs.Pass.Resolver
import OrgFederation.Proofs.Reconciliation.Parking
import OrgFederation.Proofs.Management.Comparison
import OrgFederation.Proofs.Resource.Updates
import OrgFederation.Proofs.Account.Courses
import OrgFederation.Proofs.Account.Receipts
import OrgFederation.Proofs.Account.Lifetimes
import OrgFederation.Proofs.Deployment.Connections
import OrgFederation.Proofs.Account.Expiry
import OrgFederation.Proofs.Json.Arrays
import OrgFederation.Proofs.Account.Answers
import OrgFederation.Proofs.Text.Trimming
import OrgFederation.Proofs.Text.WellFormed
import OrgFederation.Proofs.Account.Secrets
import OrgFederation.Proofs.Text.Casing
import OrgFederation.Proofs.Settings.Validation
import OrgFederation.Proofs.Reconciliation.Recurrence
