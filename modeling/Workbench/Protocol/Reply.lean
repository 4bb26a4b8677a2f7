import Workbench.Protocol.Command

/-!
# Protocol: server replies

A reply holds the result of a command or an error, never both.  The type of the result is
a parameter with its own way to be written and read.
-/

namespace Workbench.Protocol

open Library

/-- The categories of errors. -/
inductive ErrorCode where
  | invalidRequest
  | unsupportedVersion
  | frameTooLarge
  | unauthorizedPeer
  | sessionNotFound
  | invalidTransition
  | capabilityUnavailable
  | policyDenied
  | approvalRequired
  | providerUnavailable
  | providerTimeout
  | outcomeUnknown
  | clientLagged
  | storageUnavailable
  | keyStoreUnavailable
  | internal
  deriving DecidableEq

/-- Their names on the wire. -/
def ErrorCode.variants : List (String × ErrorCode) :=
  [("invalid_request", .invalidRequest), ("unsupported_version", .unsupportedVersion),
    ("frame_too_large", .frameTooLarge), ("unauthorized_peer", .unauthorizedPeer),
    ("session_not_found", .sessionNotFound), ("invalid_transition", .invalidTransition),
    ("capability_unavailable", .capabilityUnavailable), ("policy_denied", .policyDenied),
    ("approval_required", .approvalRequired), ("provider_unavailable", .providerUnavailable),
    ("provider_timeout", .providerTimeout), ("outcome_unknown", .outcomeUnknown),
    ("client_lagged", .clientLagged), ("storage_unavailable", .storageUnavailable),
    ("key_store_unavailable", .keyStoreUnavailable), ("internal", .internal)]

/-- The errors that must not be marked as retryable. -/
def ErrorCode.isFinal : ErrorCode → Bool
  | .invalidRequest | .unsupportedVersion | .frameTooLarge | .unauthorizedPeer
  | .sessionNotFound | .invalidTransition | .capabilityUnavailable | .policyDenied
  | .approvalRequired | .outcomeUnknown | .clientLagged | .keyStoreUnavailable
  | .internal => true
  | _ => false

/-- An error as a client sees it. -/
structure ProtocolError where
  code : ErrorCode
  message : String
  retryable : Bool
  correlationId : Uuid

/-- A bounded message, and no retry of final errors. -/
def ProtocolError.validate (error : ProtocolError) : Except String Unit := do
  if error.message = "" ∨ 512 < error.message.utf8ByteSize then
    throw "error message must contain 1 to 512 bytes"
  if error.code.isFinal && error.retryable then
    throw "error category cannot be marked retryable"

def ProtocolError.toValue (error : ProtocolError) : Json :=
  .object [("code", .ofVariant ErrorCode.variants error.code), ("message", .string error.message),
    ("retryable", .bool error.retryable), ("correlation_id", ofUuid error.correlationId)]

def ProtocolError.fromValue (value : Json) : Option ProtocolError := do
  guard (value.isRecord ["code", "message", "retryable", "correlation_id"] 4)
  let code ← value.required (Json.asVariant ErrorCode.variants) "code" 0
  let message ← value.required Json.asString "message" 1
  let retryable ← value.required Json.asBool "retryable" 2
  let correlationId ← value.required asUuid "correlation_id" 3
  return { code, message, retryable, correlationId }

/-- A type of results that can be written and read back: its members may be written in any order,
and are read from the map that strict decoding makes of them. -/
structure ResultType (T : Type) where
  toValue : T → Json
  fromValue : Json → Option T
  strict : T → Json
  strict_toValue : ∀ result, strictValue (toValue result) = .ok (strict result)
  fromValue_strict : ∀ result, fromValue (strict result) = some result

/-- The answer to one request. -/
inductive ServerReply (T : Type) where
  | success (requestId : Uuid) (result : T)
  | failure (requestId : Uuid) (error : ProtocolError)

/-- A reply before its outcome is checked. -/
structure RawReply (T : Type) where
  protocol : String
  requestId : Uuid
  ok : Bool
  result : Option T
  error : Option ProtocolError

section

variable {T : Type} (resultType : ResultType T)

def RawReply.fromValue (value : Json) : Option (RawReply T) := do
  guard (value.isRecord ["protocol", "request_id", "ok", "result", "error"] 3)
  let protocol ← value.required Json.asString "protocol" 0
  let requestId ← value.required asUuid "request_id" 1
  let ok ← value.required Json.asBool "ok" 2
  let result ← value.optional resultType.fromValue "result" 3
  let error ← value.optional ProtocolError.fromValue "error" 4
  return { protocol, requestId, ok, result, error }

/-- The one outcome that a reply must contain. -/
def RawReply.intoReply (raw : RawReply T) : Except String (ServerReply T) := do
  if raw.protocol ≠ protocolV1 then throw "unsupported protocol major"
  match raw.ok, raw.result, raw.error with
  | true, some result, none => return .success raw.requestId result
  | false, none, some error =>
    error.validate
    return .failure raw.requestId error
  | _, _, _ => throw "reply must contain exactly one valid outcome"

/-- Reads a reply. -/
def ServerReply.fromValue (serde : SerdeJson) (value : Json) : Except String (ServerReply T) := do
  let raw ← derived serde (RawReply.fromValue resultType) value
  raw.intoReply

/-- Writes a reply whose error passes its checks. -/
def ServerReply.toValue : ServerReply T → Except String Json
  | .success requestId result =>
    .ok (.object [("protocol", .string protocolV1), ("request_id", ofUuid requestId),
      ("ok", .bool true), ("result", resultType.toValue result)])
  | .failure requestId error => do
    error.validate
    return .object [("protocol", .string protocolV1), ("request_id", ofUuid requestId),
      ("ok", .bool false), ("error", error.toValue)]

/-- A successful reply whose result is written as null. -/
def ServerReply.hasNullResult : ServerReply T → Prop
  | .success _ result => resultType.toValue result = .null
  | .failure _ _ => False

end

end Workbench.Protocol
