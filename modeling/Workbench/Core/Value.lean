import Workbench.Library.Fallible

/-!
# Core: validated scalar values and the failure taxonomy

Identifiers and non-empty texts are subtypes, so a value that exists has passed
its parser.  The correlation id and the retry flag of a failure are not read by
any function modelled here and are left out.
-/

namespace Workbench.Core

/-- The closed error taxonomy exposed by protocol version 1. -/
inductive FailureCategory where
  | invalidRequest
  | unsupportedVersion
  | frameTooLarge
  | unauthorizedPeer
  | sessionNotFound
  | invalidTransition
  | capabilityUnavailable
  | policyDenied
  | approvalRequired
  | providerUnavailable
  | providerTimeout
  | outcomeUnknown
  | clientLagged
  | storageUnavailable
  | keyStoreUnavailable
  | internal
  deriving DecidableEq

/-- A user-safe failure with a stable category. -/
structure CoreError where
  category : FailureCategory
  message : String
  deriving DecidableEq

/-- `^[a-z][a-z0-9-]{0,62}$`, checked byte by byte in the source. -/
def isIdentifier (value : String) : Bool :=
  match value.toList with
  | [] => false
  | first :: rest =>
    first.isLower && rest.all (fun c => c.isLower || c.isDigit || c == '-')
      && decide (value.utf8ByteSize ≤ 63)

/-- A configuration identifier that matches the schema. -/
def Identifier : Type := { value : String // isIdentifier value = true }

instance : DecidableEq Identifier := inferInstanceAs (DecidableEq (Subtype _))

namespace Identifier

/-- Validates a configuration identifier. -/
def parse (value : String) : Except CoreError Identifier :=
  if h : isIdentifier value = true then .ok ⟨value, h⟩
  else .error ⟨.invalidRequest, "identifier must match ^[a-z][a-z0-9-]\x7b0,62\x7d$"⟩

/-- The identifier text. -/
def asStr (id : Identifier) : String := id.val

theorem parse_asStr (id : Identifier) : parse id.asStr = .ok id := by
  have h : isIdentifier id.asStr := id.property
  simp only [parse, h, dite_true]
  rfl

theorem asStr_of_parse {value : String} {id : Identifier} (h : parse value = .ok id) :
    id.asStr = value := by
  unfold parse at h
  split at h
  · cases h; rfl
  · cases h

end Identifier

/-- Identifies a stable workflow role. -/
abbrev RoleId := Identifier
/-- Identifies a provider-independent model mapping. -/
abbrev ModelAlias := Identifier
/-- Identifies a provider adapter. -/
abbrev ProviderId := Identifier
/-- Identifies a centrally registered tool. -/
abbrev ToolId := Identifier
/-- Identifies a centrally registered data source. -/
abbrev DataSourceId := Identifier
/-- Identifies a declarative workflow. -/
abbrev WorkflowId := Identifier

/-- Non-empty text whose surrounding whitespace is significant. -/
def NonEmptyText : Type := { value : String // value ≠ "" }

instance : DecidableEq NonEmptyText := inferInstanceAs (DecidableEq (Subtype _))

/-- Rejects an empty string while preserving all content. -/
def NonEmptyText.parse (value : String) : Except CoreError NonEmptyText :=
  if h : value = "" then .error ⟨.invalidRequest, "text must not be empty"⟩
  else .ok ⟨value, h⟩

/-- The original text. -/
def NonEmptyText.asStr (text : NonEmptyText) : String := text.val

end Workbench.Core
