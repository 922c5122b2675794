import Operly.Mcp.Gateway
import Operly.Mcp.RequestSafety

/-! A POST to `/mcp` on its way to the Kernel: the middleware, the endpoint and the gateway. -/

namespace Operly.Mcp
open Python Security Kernel

structure McpPost where
  body : McpBody
  protocolVersion : Option String := none
  /-- `Mcp-Method` -/
  routedMethod : Option String := none
  /-- `Mcp-Name` -/
  routedName : Option String := none

structure ToolCall where
  toolId : String
  arguments : Fields
  goal : String
  requestId : Option String
  approvalId : Option String
  conversationId : Option String

/-- What the endpoint does with a request; a response repeats its JSON-RPC id. -/
inductive McpReply where
  | error (id : Json) (status : Nat) (code : Int) (message : String)
  | noContent
  | discovery (id : Json)
  | pong (id : Json)
  | tools (id : Json)
  | call (id : Json) (call : ToolCall)

def supportedProtocolVersions : List String := ["2026-07-28", "2025-06-18"]

/-- `text or None` -/
def orNone (text : String) : Option String := if text = "" then none else some text

section Endpoint

variable (spelling : Spelling) (context : McpRequestContext) (post : McpPost)

def headerMethod : String := strip (post.routedMethod.getD "")

def headerName : String := strip (post.routedName.getD "")

def routed (body header : String) : String := if body ≠ "" then body else header

def mismatched (body header : String) : Bool := body ≠ "" && header ≠ "" && body ≠ header

def toolCall (name : String) (arguments fields : Fields) : ToolCall where
  toolId := name
  arguments := arguments
  goal := (Fields.getOr fields "operly/goal" (.str context.objective)).toStr spelling
  requestId := orNone (textOr spelling fields "operly/requestId")
  approvalId := orNone (textOr spelling fields "operly/approvalId")
  conversationId := (orNone (textOr spelling fields "operly/conversationId")).or context.conversationId

def callReply (id : Json) (payload : Fields) : McpReply :=
  match Fields.getOr payload "params" (.obj []) with
  | .obj params =>
      let body := bodyName spelling params
      if mismatched body (headerName post) then
        .error id 400 (-32602) "MCP tool name header/body mismatch"
      else
        match Fields.getOr params "arguments" (.obj []), Fields.getOr params "_meta" (.obj []) with
        | .obj arguments, .obj fields =>
            .call id (toolCall spelling context (routed body (headerName post)) arguments fields)
        | _, _ => .error id 200 (-32602) "Tool arguments and _meta must be objects"
  | _ => .error id 200 (-32602) "Tool call params must be an object"

/-- `mcp_endpoint`, for a caller that is authenticated. -/
def mcpEndpoint (payload : Fields) : McpReply :=
  let id := (Fields.get payload "id").getD .null
  let body := bodyMethod spelling payload
  if isSet post.protocolVersion && !supportedProtocolVersions.contains (post.protocolVersion.getD "") then
    .error id 400 (-32600) "Unsupported MCP protocol version"
  else if mismatched body (headerMethod post) then
    .error id 400 (-32600) "MCP method header/body mismatch"
  else
    let method := routed body (headerMethod post)
    if method = "notifications/initialized" then .noContent
    else if ["initialize", "server/discover"].contains method then .discovery id
    else if method = "ping" then .pong id
    else if method = "tools/list" then .tools id
    else if method = "tools/call" then callReply spelling context post id payload
    else .error id 404 (-32601) "Method not found"

end Endpoint

/-- `request_id or f"mcp:{request.client_id}:{uuid4()}"` -/
def stableRequestId (context : McpRequestContext) (uuid : String) (requestId : Option String) : String :=
  if isSet requestId then requestId.getD "" else "mcp:" ++ context.clientId ++ ":" ++ uuid

def runtimeRequest (context : McpRequestContext) (uuid : String) (call : ToolCall) (spec : CapabilitySpec) :
    RuntimeRequest where
  goal :=
    let goal := routed call.goal (routed context.objective ("MCP call to " ++ spec.id))
    String.ofList (goal.toList.take 4000)
  capabilityId := some spec.id
  arguments := call.arguments
  conversationId := if isSet call.conversationId then call.conversationId else context.conversationId
  requestId := some (stableRequestId context uuid call.requestId)
  approvalId := call.approvalId

/-- `call_tool`, up to the request that it hands to the Kernel. -/
def McpGateway.callTool {σ : Type} (gateway : McpGateway σ) (state : σ) (context : McpRequestContext)
    (uuid : String) (call : ToolCall) : Except GatewayError RuntimeRequest := do
  let (_, spec) ← gateway.availableSpec state context call.toolId
  return runtimeRequest context uuid call spec

inductive McpRefusal where
  | rejected (error : McpRequestSafetyError)
  | replied (reply : McpReply)
  | failed (error : GatewayError)

structure Serving where
  State : Type
  gateway : McpGateway State
  state : State
  context : McpRequestContext
  uuid : String

def kernelRequest (sha256 : Sha256) (spelling : Spelling) (serving : Serving) (post : McpPost) :
    Except McpRefusal RuntimeRequest := do
  let payload ← (prepareMcpBody sha256 spelling post.body).mapError .rejected
  match mcpEndpoint spelling serving.context post payload with
  | .call _ call =>
      (serving.gateway.callTool serving.state serving.context serving.uuid call).mapError .failed
  | reply => .error (.replied reply)

end Operly.Mcp
