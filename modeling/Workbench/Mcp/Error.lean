import Workbench.Core.Attempt

/-!
# Mcp: errors and public events of the gateway

The stable, redacted error categories of the MCP gateway and the events it shows of a
tool attempt.  The mapping of an error to the failure taxonomy of the protocol is read by
no function modelled here and is left out.
-/

namespace Workbench.Mcp

open Workbench.Core

/-- Public error categories for MCP lifecycle and tool dispatch. -/
inductive McpErrorKind where
  | invalidConfiguration
  | pinMismatch
  | unavailable
  | policyDenied
  | approvalRequired
  | approvalDenied
  | transportFailed
  | responseTooLarge
  | redirectRejected
  | timeout
  | cancelled
  | outcomeUnknown
  | shuttingDown
  | reapFailed
  | internal
  deriving DecidableEq

/-- Redacted gateway failure.  Never carries secrets, paths, or raw payloads. -/
structure McpError where
  kind : McpErrorKind
  message : String
  deriving DecidableEq

namespace McpError

def pinMismatch : McpError := ⟨.pinMismatch, "MCP artifact pin mismatch"⟩
def unavailable : McpError := ⟨.unavailable, "MCP server is unavailable"⟩
def policyDenied : McpError := ⟨.policyDenied, "tool denied by policy"⟩
def approvalRequired : McpError := ⟨.approvalRequired, "tool requires human approval"⟩
def approvalDenied : McpError := ⟨.approvalDenied, "tool approval was denied"⟩
def responseTooLarge : McpError := ⟨.responseTooLarge, "MCP response exceeded size ceiling"⟩
def redirectRejected : McpError := ⟨.redirectRejected, "MCP redirect to unpinned host rejected"⟩
def transportFailed : McpError := ⟨.transportFailed, "MCP transport failed"⟩
def shuttingDown : McpError := ⟨.shuttingDown, "MCP gateway is shutting down"⟩
def outcomeUnknown : McpError := ⟨.outcomeUnknown, "MCP call outcome is unknown after start"⟩
def invalidConfiguration : McpError := ⟨.invalidConfiguration, "MCP configuration is invalid"⟩
def stdioTimeout : McpError := ⟨.timeout, "MCP stdio call timed out"⟩
def httpTimeout : McpError := ⟨.timeout, "MCP HTTP call timed out"⟩

end McpError

/-! ## Public tool events -/

/-- Bounded lifecycle categories exposed on the public protocol. -/
inductive ToolLifecycle where
  | planned
  | allowed
  | denied
  | approvalRequired
  | approved
  | started
  | succeeded
  | failed
  | cancelled
  | outcomeUnknown
  deriving DecidableEq

/-- Redacted public tool event payload. -/
structure PublicToolEvent where
  toolName : String
  lifecycle : ToolLifecycle
  outcome : String
  attemptId : Nat
  correlationId : String
  policySource : Option String := none
  errorKind : Option String := none
  deriving DecidableEq

def policySourceName : PolicySource → String
  | .builtIn => "built_in"
  | .user => "user"
  | .repository => "repository"
  | .session => "session"
  | .role => "role"
  | .workflow => "workflow"
  | .effectClass => "effect_class"

def errorKindName : McpErrorKind → String
  | .invalidConfiguration => "invalid_configuration"
  | .pinMismatch => "pin_mismatch"
  | .unavailable => "unavailable"
  | .policyDenied => "policy_denied"
  | .approvalRequired => "approval_required"
  | .approvalDenied => "approval_denied"
  | .transportFailed => "transport_failed"
  | .responseTooLarge => "response_too_large"
  | .redirectRejected => "redirect_rejected"
  | .timeout => "timeout"
  | .cancelled => "cancelled"
  | .outcomeUnknown => "outcome_unknown"
  | .shuttingDown => "shutting_down"
  | .reapFailed => "reap_failed"
  | .internal => "internal"

def PublicToolEvent.withPolicySource (event : PublicToolEvent) (source : PolicySource) :
    PublicToolEvent :=
  { event with policySource := some (policySourceName source) }

def PublicToolEvent.withErrorKind (event : PublicToolEvent) (kind : McpErrorKind) :
    PublicToolEvent :=
  { event with errorKind := some (errorKindName kind) }

end Workbench.Mcp
