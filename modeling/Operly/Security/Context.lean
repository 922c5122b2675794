import Operly.Python.Json

/-! The trusted execution context and the surface policy. -/

namespace Operly.Security
open Python

inductive ScopeKind where
  | personal
  | workspace
  deriving DecidableEq, Repr

def ScopeKind.value : ScopeKind → String
  | .personal => "personal"
  | .workspace => "workspace"

inductive SurfaceKind where
  | unknown
  | personalPrivate
  | workspaceShared
  | workspacePrivate
  | discordDm
  | discordGuild
  | systemTask
  | mcpClient
  | pluginRuntime
  | solutionRuntime
  deriving DecidableEq, Repr

namespace SurfaceKind

def value : SurfaceKind → String
  | .unknown => "unknown"
  | .personalPrivate => "personal_private"
  | .workspaceShared => "workspace_shared"
  | .workspacePrivate => "workspace_private"
  | .discordDm => "discord_dm"
  | .discordGuild => "discord_guild"
  | .systemTask => "system_task"
  | .mcpClient => "mcp_client"
  | .pluginRuntime => "plugin_runtime"
  | .solutionRuntime => "solution_runtime"

def allowsPersonalGlobal (surface : SurfaceKind) : Bool :=
  surface = .personalPrivate || surface = .discordDm

def allowsPersonalWorkspace (surface : SurfaceKind) : Bool :=
  surface = .personalPrivate || surface = .discordDm || surface = .workspacePrivate

def allowsPrivateConversation (surface : SurfaceKind) : Bool :=
  surface = .personalPrivate || surface = .discordDm || surface = .workspacePrivate

end SurfaceKind

def capabilitySurfaceAllowed (capabilityId : String) (surface : SurfaceKind) : Bool :=
  let capability := lower (strip capabilityId)
  if startsWith capability "account." || startsWith capability "context.human." then
    surface.allowsPersonalGlobal
  else if startsWith capability "context.private_workspace_" then surface.allowsPersonalWorkspace
  else if capability = "context.conversation.remember_private" then
    surface.allowsPrivateConversation
  else true

/-- A nullable text column or attribute counts as set when it is neither null nor empty. -/
def isSet (text : Option String) : Bool := text.getD "" != ""

structure ExecutionContext where
  workspaceId : Option String
  userId : Option String
  role : String
  permissions : List String
  channel : String
  surface : SurfaceKind
  conversationId : Option String
  metadata : Fields
  scopeKind : ScopeKind
  principalId : Option String
  workspaceMode : String
  membershipId : Option String := none
  focusWorkspaceId : Option String := none
  deriving DecidableEq

namespace ExecutionContext

def isPersonal (context : ExecutionContext) : Bool := context.scopeKind = .personal

def isWorkspace (context : ExecutionContext) : Bool := context.scopeKind = .workspace

def isGuestWorkspace (context : ExecutionContext) : Bool :=
  context.isWorkspace && context.workspaceMode = "guest"

/-- The owner of a full workspace can do everything; everyone else has a permission set. -/
def can (context : ExecutionContext) (permission : String) : Bool :=
  (context.isWorkspace && !context.isGuestWorkspace && context.role = "owner") ||
    context.permissions.contains permission

end ExecutionContext

end Operly.Security
