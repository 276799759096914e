import Orcheo.Defs.Listeners.Delivery
import Orcheo.Defs.Repository.RunOwnership
import Orcheo.Defs.Repository.CronOnce
import Orcheo.Defs.Routers.WebhookRejection
import Orcheo.Defs.Routers.Authorisation
import Orcheo.Defs.ChatKit.Separation
import Orcheo.Defs.Repository.Archive
import Orcheo.Defs.Listeners.Rows
import Orcheo.Defs.Repository.WorkflowUpdates
import Orcheo.Defs.HostedApps.Gate
import Orcheo.Defs.HostedApps.Review
import Orcheo.Defs.Execution.Closure
import Orcheo.Defs.Listeners.Reconcile
import Orcheo.Defs.HostedApps.AuditAtomicity
import Orcheo.Defs.Repository.RunQuota
import Orcheo.Defs.Sandbox.CompiledNodes
import Orcheo.Defs.Graph.StoredWorkflows
import Orcheo.Defs.Repository.WorkspaceIsolation
import Orcheo.Defs.Identity.CodeLockout
import Orcheo.Defs.Identity.RefreshRotation
import Orcheo.Defs.Identity.Consent
import Orcheo.Defs.Identity.DisabledAccounts
import Orcheo.Defs.Workspaces.Invitations
import Orcheo.Defs.Workspaces.MembershipCache
import Orcheo.Defs.Vault.LostUpdates
import Orcheo.Defs.Traces.Redaction
import Orcheo.Defs.Traces.Counting
import Orcheo.Defs.ChatKitStore.Ownership
import Orcheo.Defs.Gateway.BotIdentity
import Orcheo.Defs.Plugins.Transactions
import Orcheo.Defs.Triggers.CronAdvance
import Orcheo.Defs.Triggers.WebhookAtomicity
import Orcheo.Defs.Listeners.CurrentVersion
import Orcheo.Defs.Governance.WorkspaceQuotas
import Orcheo.Defs.ServiceTokens.Minting
import Orcheo.Defs.AppGateway.Reachability
import Orcheo.Defs.Triggers.Removal
import Orcheo.Defs.Listeners.VersionCreation
import Orcheo.Defs.Repository.UpdateAtomicity
import Orcheo.Defs.Graph.Wiring
import Orcheo.Defs.Nodes.EntryPoints
import Orcheo.Defs.Graph.ReferenceDepth
import Orcheo.Defs.Sandbox.BodyTransport
import Orcheo.Defs.Edges.Switch
import Orcheo.Defs.Nodes.ForLoop
import Orcheo.Defs.Rag.Indexing
import Orcheo.Defs.HostedApps.AuthCodes
import Orcheo.Defs.HostedApps.Governance
import Orcheo.Defs.HostedApps.AppPages
import Orcheo.Defs.HostedApps.DataPages
import Orcheo.Defs.HostedApps.InvocationLimits
import Orcheo.Defs.Listeners.AccessTokens
import Orcheo.Defs.Qualitative.Codebook
import Orcheo.Defs.Releases.Overrides
import Orcheo.Defs.Sandbox.Resolver
import Orcheo.Defs.WeCom.Callbacks
import Orcheo.Defs.Execution.Appends
import Orcheo.Defs.Rag.Fusion
import Orcheo.Defs.Evaluation.Retrieval
