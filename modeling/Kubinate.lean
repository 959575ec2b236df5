import Kubinate.Library.Alike
import Kubinate.Library.Base64
import Kubinate.Library.Broadcast
import Kubinate.Library.Handles
import Kubinate.Library.HashChain
import Kubinate.Library.Implementation
import Kubinate.Library.Keyset
import Kubinate.Library.Machine
import Kubinate.Library.Overflow
import Kubinate.Library.PollStream
import Kubinate.Library.Pool
import Kubinate.Library.Program
import Kubinate.Library.ReadCommitted
import Kubinate.Library.Sequence
import Kubinate.Library.Settings
import Kubinate.Library.Shell
import Kubinate.Library.Together
import Kubinate.Library.Url
import Kubinate.Library.Utf8
import Kubinate.Platform.Text
import Kubinate.Platform.Types
import Kubinate.Identity.AcceptInvite
import Kubinate.Identity.Batches
import Kubinate.Identity.Canonical
import Kubinate.Identity.Directory
import Kubinate.Identity.Invites
import Kubinate.Identity.LastOwner
import Kubinate.Identity.MembershipService
import Kubinate.Identity.Model
import Kubinate.Identity.Owners
import Kubinate.Identity.PasskeyFlag
import Kubinate.Identity.RecoveryCodes
import Kubinate.Identity.RecoveryEffects
import Kubinate.Identity.Repository
import Kubinate.Identity.RequiresMfa
import Kubinate.Identity.RoleAuthority
import Kubinate.Identity.SignCounter
import Kubinate.Identity.Statements
import Kubinate.Access.Accounts
import Kubinate.Access.AuthStates
import Kubinate.Access.Binding
import Kubinate.Access.Ceremonies
import Kubinate.Access.Effects
import Kubinate.Access.Evidence
import Kubinate.Access.Extractors
import Kubinate.Access.IdentityLinks
import Kubinate.Access.Lifetimes
import Kubinate.Access.Members
import Kubinate.Access.MfaGate
import Kubinate.Access.Redirect
import Kubinate.Access.Requests
import Kubinate.Access.Tenancy
import Kubinate.Audit.Append
import Kubinate.Audit.Attribution
import Kubinate.Audit.History
import Kubinate.Audit.Honest
import Kubinate.Audit.Log
import Kubinate.Audit.Paging
import Kubinate.Audit.Tamper
import Kubinate.Billing.Cancellation
import Kubinate.Billing.EventLog
import Kubinate.Billing.Plans
import Kubinate.Billing.Redelivery
import Kubinate.Billing.Tenancy
import Kubinate.Billing.Webhook
import Kubinate.Clusters.Activities
import Kubinate.Clusters.Chronicle
import Kubinate.Clusters.Cloud
import Kubinate.Clusters.Convergence
import Kubinate.Clusters.Deletion
import Kubinate.Clusters.EventStream
import Kubinate.Clusters.Events
import Kubinate.Clusters.Finality
import Kubinate.Clusters.Inventory
import Kubinate.Clusters.Model
import Kubinate.Clusters.Orphans
import Kubinate.Clusters.Processes
import Kubinate.Clusters.Provisioning
import Kubinate.Clusters.Redaction
import Kubinate.Clusters.RoundTrip
import Kubinate.Clusters.RunRecord
import Kubinate.Clusters.Runner
import Kubinate.Clusters.ScaleIn
import Kubinate.Clusters.ScaleRecord
import Kubinate.Clusters.ServerNames
import Kubinate.Clusters.Settling
import Kubinate.Clusters.ShellCommands
import Kubinate.Clusters.StreamEnd
import Kubinate.Clusters.Tenancy
import Kubinate.Clusters.WorkerCount
import Kubinate.Clusters.WorkerNames
import Kubinate.Clusters.Workflows
import Kubinate.Addons.FailedRequests
import Kubinate.Addons.Model
import Kubinate.Addons.Runner
import Kubinate.Addons.Sanitised
import Kubinate.Addons.Serial
import Kubinate.Addons.Staging
import Kubinate.Addons.Versions
import Kubinate.Agent.Reconnect
import Kubinate.Agent.Session
import Kubinate.Agent.Tunnel
import Kubinate.Secrets.Meaning
import Kubinate.Secrets.Migration
import Kubinate.Secrets.Paging
import Kubinate.Secrets.Refinement
import Kubinate.Secrets.Stores
import Kubinate.Observability.Escaping
import Kubinate.Observability.Exposition
import Kubinate.Observability.Labels
import Kubinate.Observability.RangeTimes
import Kubinate.Observability.Selector
import Kubinate.Observability.TenantLog
import Kubinate.Integrations.Hetzner
import Kubinate.Integrations.Processes
import Kubinate.Integrations.Stripe
import Kubinate.Fleet.AllOrNothing
import Kubinate.Fleet.Credentials
import Kubinate.Fleet.Custody
import Kubinate.Fleet.Effects
import Kubinate.Fleet.Erasure
import Kubinate.Fleet.Idempotency
import Kubinate.Fleet.Requests
import Kubinate.Fleet.StoreKubeconfig
import Kubinate.Fleet.Tables
import Kubinate.Tenancy.Transparency
import Kubinate.Api.RateLimiter
import Kubinate.Frontend.AuditLogPage
import Kubinate.Frontend.Base64Url
import Kubinate.Frontend.ClusterPage
import Kubinate.Frontend.Passkey
