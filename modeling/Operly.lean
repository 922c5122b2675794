import Operly.Workflow.EventChains
import Operly.Workflow.Versions
import Operly.Kernel.RequestIdentity
import Operly.Platform.Attempts
import Operly.Platform.Invocations
import Operly.Agent.Uncertainty
import Operly.Studio.ActiveDeployment
import Operly.Platform.BudgetCalls
import Operly.Workflow.Releases
import Operly.Workflow.Claims
import Operly.Platform.Storage
import Operly.Workspace.Members
import Operly.Workspace.Inventory
import Operly.Security.PersonalDelegation
import Operly.Platform.Webhooks
import Operly.Platform.ManifestStorage
import Operly.Platform.RuntimeHealth
import Operly.Auth.Guesses
import Operly.Auth.Passwords
import Operly.Agent.Retrieval
import Operly.Agent.LoopBounds
import Operly.Workspace.Shipping
import Operly.Workflow.Revalidation
import Operly.Workflow.UtcTimes
import Operly.Auth.RateLimit
import Operly.Mcp.ReuseAlarm
import Operly.Security.Invitations
import Operly.Security.ExternalIdentities
import Operly.Workspace.Readable
import Operly.Workflow.EventPatterns
import Operly.Workflow.Rendering
import Operly.Kernel.SchemaSemantics
import Operly.Platform.EgressPaths
import Operly.Platform.JobKeys
import Operly.Agent.PlanGuarantees
import Operly.Workspace.ModuleRuns
import Operly.Workspace.PaymentOverlap
import Operly.Mcp.BodyMeaning
import Operly.Agent.RunHistory
import Operly.Platform.Fanout
