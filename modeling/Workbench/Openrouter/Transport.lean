import Workbench.Library.JsonCodec
import Workbench.Library.Text
import Workbench.Openrouter.Budget

/-!
# Openrouter: Chat Completions transport

One request over HTTPS or against the in-process fake, and the decoding of the response.
What the network does is an input of the request.  `mayHaveSent` says whether the paid
request can have left the process, and `arrived` what came back, be it kept or dropped.
JSON text, UTF-8 and the arithmetic of `f64` are parameters.

`OpenRouterError::new` cuts its message at byte 256 and panics when a character straddles
that byte.  Only the message of an error frame can be that long, so the functions on the
way from such a frame return `none` for the panic.
-/

namespace Workbench.Openrouter

open Library Workbench.Core

/-- The text formats the transport reads, and what an amount of money is in micro-dollars. -/
structure TextFormats where
  fromUtf8 : Bytes → Option Text
  fromStr : Text → Option Json
  /-- `f64_to_usd_micros` on the `f64` that a number is read as. -/
  f64ToUsdMicros : JsonNumber → UInt64

def maxBodyBytes : Nat := 8 * 1024 * 1024

/-! ## Frames -/

/-- Parsed usage and spend from a terminal completion payload. -/
structure UsageSummary where
  promptTokens : Nat := 0
  completionTokens : Nat := 0
  costUsdMicros : Nat := 0
  deriving DecidableEq

/-- The first 256 bytes of a message, unless they end within a character. -/
def truncate : Nat → Text → Option Text
  | _, [] => some []
  | room, c :: rest =>
    if c.utf8Size ≤ room then (truncate (room - c.utf8Size) rest).map (c :: ·)
    else if room = 0 then some []
    else none

/-- `OpenRouterError::new` on a message from outside. -/
def OpenRouterError.new (kind : OpenRouterErrorKind) (message : String) : Option OpenRouterError :=
  if Text.utf8Length message.toList ≤ 256 then some ⟨kind, message⟩
  else (truncate 256 message.toList).map fun text => ⟨kind, String.ofList text⟩

def isDone (data : Text) : Bool := Text.trim data == "[DONE]".toList

/-- The non-empty text under `content` becomes an output. -/
def contentOutput (holder : Option Json) (emptyMessage : String) :
    Except OpenRouterError (List ProviderOutput) :=
  match (holder.bind (Json.member "content")).bind Json.asString with
  | none => .ok []
  | some content =>
    if content = "" then .ok []
    else
      match NonEmptyText.parse content with
      | .ok content => .ok [.content "assistant_message" content]
      | .error _ => .error ⟨.malformedStream, emptyMessage⟩

/-- The outputs of the choices of a frame, in order. -/
def choiceOutputs : List Json → Except OpenRouterError (List ProviderOutput)
  | [] => .ok []
  | choice :: rest => do
    let delta ← contentOutput (choice.member "delta") "OpenRouter content was empty after parse"
    let message ← contentOutput (choice.member "message")
      "OpenRouter message content was empty after parse"
    let others ← choiceOutputs rest
    return delta ++ message ++ others

/-- Normalize one SSE data payload into zero or more provider outputs. -/
def normalizeSseData (formats : TextFormats) (data : Text) :
    Option (Except OpenRouterError (List ProviderOutput)) :=
  if isDone data then some (.ok [])
  else
    match formats.fromStr data with
    | none => some (.error ⟨.malformedStream, "OpenRouter stream frame is not valid JSON"⟩)
    | some value =>
      match value.member "error" with
      | some error =>
        let message := ((error.member "message").bind Json.asString).getD
          "OpenRouter returned an error"
        (OpenRouterError.new .unavailable message).map .error
      | none =>
        match (value.member "choices").bind (Json.asList some) with
        | none => some (.error ⟨.malformedStream, "OpenRouter stream frame is missing choices"⟩)
        | some choices => some (choiceOutputs choices)

/-- Saturating multiplication of `u64`. -/
def saturatingMul (a b : Nat) : Nat := min (a * b) u64Max

/-- Extracts usage from a terminal non-stream or final stream-adjacent payload. -/
def extractUsage (formats : TextFormats) (value : Json) : UsageSummary :=
  let usage := value.member "usage"
  let tokens key := (((usage.bind (Json.member key)).bind Json.asU64).map UInt64.toNat).getD 0
  let promptTokens := tokens "prompt_tokens"
  let completionTokens := tokens "completion_tokens"
  let reported :=
    match usage.bind (Json.member "cost"), usage.bind (Json.member "total_cost") with
    | some (.number amount), _ | _, some (.number amount) => (formats.f64ToUsdMicros amount).toNat
    | _, _ => 0
  -- Conservative local estimate: $0.50 / 1M input, $1.50 / 1M output.
  let estimate :=
    max (saturatingAdd (saturatingMul promptTokens 500000 / 1000000)
      (saturatingMul completionTokens 1500000 / 1000000)) 1
  ⟨promptTokens, completionTokens, if reported = 0 then estimate else reported⟩

/-- The data of one line; the longer `data: ` of the source makes no difference. -/
def lineData (line : Text) : Option Text :=
  let line := (line.reverse.dropWhile (· == '\r')).reverse
  if "data:".toList.isPrefixOf line then some ((line.drop 5).dropWhile Text.isWhite) else none

/-- Splits an SSE body into data payloads. -/
def splitSseData (formats : TextFormats) (body : Bytes) : Except OpenRouterError (List Text) :=
  match formats.fromUtf8 body with
  | none => .error ⟨.malformedStream, "OpenRouter stream is not valid UTF-8"⟩
  | some text =>
    let payloads := (Text.split ['\n', '\n'] text).flatMap fun block =>
      (Text.lines block).filterMap lineData
    -- Non-SSE JSON completion body.
    if payloads = [] ∧ Text.trim text ≠ [] then .ok [Text.trim text] else .ok payloads

/-- The first frame with usage decides; without one there is none. -/
def usageOfPayloads (formats : TextFormats) : List Text → UsageSummary
  | [] => {}
  | payload :: rest =>
    if isDone payload then usageOfPayloads formats rest
    else
      match formats.fromStr (Text.trim payload) with
      | none => usageOfPayloads formats rest
      | some value =>
        let usage := extractUsage formats value
        if usage.promptTokens > 0 ∨ usage.completionTokens > 0 ∨
            (value.member "usage").isSome then usage
        else usageOfPayloads formats rest

def extractUsageFromSse (formats : TextFormats) (body : Bytes) : UsageSummary :=
  match splitSseData formats body with
  | .ok payloads => usageOfPayloads formats payloads
  | .error _ => {}

/-- The loop of `decode_body`. -/
def decodePayloads (formats : TextFormats) :
    List Text → List ProviderOutput → Bool →
      Option (Except OpenRouterError (List ProviderOutput × Bool))
  | [], outputs, sawDone => some (.ok (outputs, sawDone))
  | payload :: rest, outputs, sawDone =>
    if isDone payload then decodePayloads formats rest outputs true
    else
      match normalizeSseData formats payload with
      | none => none
      | some (.error error) => some (.error error)
      | some (.ok more) => decodePayloads formats rest (outputs ++ more) sawDone

/-- Decodes a transport body into normalized outputs and whether it completed. -/
def decodeBody (formats : TextFormats) (body : Bytes) :
    Option (Except OpenRouterError (List ProviderOutput × Bool)) :=
  if body.length > maxBodyBytes then
    some (.error ⟨.responseTooLarge, "OpenRouter response exceeds the encoded body ceiling"⟩)
  else
    match splitSseData formats body with
    | .error error => some (.error error)
    | .ok payloads => decodePayloads formats payloads [] false

/-- A body with the completion marker among its payloads. -/
def carriesMarker (formats : TextFormats) (body : Bytes) : Bool :=
  match splitSseData formats body with
  | .ok payloads => payloads.any isDone
  | .error _ => false

variable {formats : TextFormats} {error : OpenRouterError}

theorem decodePayloads_eq_ok {payloads : List Text} {before outputs : List ProviderOutput}
    {sawDone completed : Bool}
    (h : decodePayloads formats payloads before sawDone = some (.ok (outputs, completed))) :
    completed = (sawDone || payloads.any isDone) := by
  induction payloads generalizing before sawDone with
  | nil =>
    cases h
    simp
  | cons payload rest ih =>
    unfold decodePayloads at h
    rw [List.any_cons]
    split at h
    · next hdone =>
      rw [ih h, hdone]
      simp
    · next hdone =>
      split at h
      · cases h
      · cases h
      · rw [ih h, Bool.eq_false_iff.mpr hdone, Bool.false_or]

/-- A body that decodes is complete if it carries the marker. -/
theorem decodeBody_eq_ok {body : Bytes} {outputs : List ProviderOutput} {completed : Bool}
    (h : decodeBody formats body = some (.ok (outputs, completed))) :
    completed = carriesMarker formats body := by
  unfold decodeBody at h
  unfold carriesMarker
  split at h
  · cases h
  split at h
  · cases h
  · next payloads hpayloads =>
    rw [hpayloads]
    simpa using decodePayloads_eq_ok h

/-! ## Requests -/

structure TransportResult where
  body : Bytes
  usage : UsageSummary
  deriving DecidableEq

/-- How the exchange with the server goes. -/
inductive Exchange where
  | invalidServerName
  | connectTimedOut
  | connectFailed
  | handshakeFailed
  | writeFailed
  | flushFailed
  /-- The read times out, or fails, when this much has arrived. -/
  | readTimedOut (response : Bytes)
  | readFailed (response : Bytes)
  | received (response : Bytes)

/-- Offline-injectable HTTP behavior. -/
inductive FakeHttpMode where
  | stream (events : List String) (usage : Json)
  | oversized (bytes : Nat)
  | invalidUtf8
  | truncatedSse
  | invalidJson
  | transportError
  | midStreamFailure (events : List String)

/-- What the world does with one request: the fake's mode, and the network. -/
structure Network where
  mode : FakeHttpMode
  exchange : Exchange

structure OpenRouterTransport where
  useFake : Bool
  baseUrl : String

def OpenRouterTransport.isFake (transport : OpenRouterTransport) : Bool :=
  transport.useFake || "fake://".toList.isPrefixOf transport.baseUrl.toList

def tooLarge : OpenRouterError :=
  ⟨.responseTooLarge, "OpenRouter response exceeds the encoded body ceiling"⟩

/-- The body with one `data:` block per event. -/
def eventBlocks (events : List String) : Text :=
  events.flatMap fun event => "data: ".toList ++ event.toList ++ "\n\n".toList

/-- The response that the fake streams. -/
def streamResult (formats : TextFormats) (events : List String) (usage : Json) : TransportResult :=
  ⟨Text.utf8 (eventBlocks events ++ "data: [DONE]\n\n".toList),
    extractUsage formats (.object [("usage", usage)])⟩

/-- `FakeOpenRouterTransport::chat_completion`. -/
def fakeChatCompletion (formats : TextFormats) :
    FakeHttpMode → Except OpenRouterError TransportResult
  | .stream events usage =>
    let result := streamResult formats events usage
    if result.body.length > maxBodyBytes then .error tooLarge else .ok result
  | .oversized bytes =>
    if bytes > maxBodyBytes then .error tooLarge
    else .ok ⟨List.replicate bytes 120, { costUsdMicros := 1 }⟩
  | .invalidUtf8 => .ok ⟨[0xff, 0xfe, 0xfd], {}⟩
  | .truncatedSse =>
    .ok ⟨Text.utf8 "data: \x7b\"choices\":[\x7b\"delta\":\x7b\"content\":\"partial\"\n".toList, {}⟩
  | .invalidJson => .ok ⟨Text.utf8 "data: \x7bnot-json\x7d\n\n".toList, {}⟩
  | .transportError => .error ⟨.transport, "OpenRouter transport failed"⟩
  | .midStreamFailure events => .ok ⟨Text.utf8 (eventBlocks events), {}⟩

def endsWith (ending text : Text) : Bool := ending.reverse.isPrefixOf text.reverse

/-- Parses `https://host[:port][/path]`. -/
def parseLiveEndpoint (baseUrl : String) : Except OpenRouterError (Text × Nat × Text) :=
  if "https://".toList.isPrefixOf baseUrl.toList then
    let stripped := baseUrl.toList.drop 8
    let (hostPort, basePath) :=
      match Text.splitOnce ['/'] stripped with
      | some (hostPort, rest) => (hostPort, '/' :: rest)
      | none => (stripped, [])
    let host := hostPort.takeWhile (· != ':')
    if host = [] then .error ⟨.invalidConfig, "OpenRouter base_url host is missing"⟩
    else
      let port := ((Text.splitOnce [':'] hostPort).bind fun parts =>
        Text.parseUnsigned 65536 parts.2).getD 443
      let path :=
        if endsWith "/chat/completions".toList basePath then basePath
        else if endsWith ['/'] basePath then basePath ++ "chat/completions".toList
        else if basePath = [] then "/api/v1/chat/completions".toList
        else basePath ++ "/chat/completions".toList
      .ok (host, port, path)
  else .error ⟨.invalidConfig, "live OpenRouter base_url must use https://"⟩

def liveHttpsExchange : Exchange → Except OpenRouterError Bytes
  | .invalidServerName =>
    .error ⟨.invalidConfig, "OpenRouter base_url host is not a valid TLS server name"⟩
  | .connectTimedOut => .error ⟨.transport, "OpenRouter connect timed out"⟩
  | .connectFailed => .error ⟨.transport, "OpenRouter connect failed"⟩
  | .handshakeFailed => .error ⟨.transport, "OpenRouter TLS handshake failed"⟩
  | .writeFailed => .error ⟨.transport, "OpenRouter write failed"⟩
  | .flushFailed => .error ⟨.transport, "OpenRouter flush failed"⟩
  | .readTimedOut _ => .error ⟨.transport, "OpenRouter read timed out"⟩
  | .readFailed _ => .error ⟨.transport, "OpenRouter read failed"⟩
  | .received response =>
    if response.length > maxBodyBytes then .error tooLarge else .ok response

/-- What follows the first empty line of a response. -/
def splitHttpBody : Bytes → Except OpenRouterError Bytes
  | [] => .error ⟨.transport, "OpenRouter response missing header terminator"⟩
  | byte :: rest =>
    if [13, 10, 13, 10].isPrefixOf (byte :: rest) then .ok (rest.drop 3) else splitHttpBody rest

def liveChatCompletion (formats : TextFormats) (baseUrl : String) (exchange : Exchange) :
    Except OpenRouterError TransportResult := do
  let _ ← parseLiveEndpoint baseUrl
  let response ← liveHttpsExchange exchange
  let body ← splitHttpBody response
  if body.length > maxBodyBytes then throw tooLarge
  return ⟨body, extractUsageFromSse formats body⟩

/-- Performs a Chat Completions request. -/
def chatCompletion (formats : TextFormats) (transport : OpenRouterTransport) (network : Network) :
    Except OpenRouterError TransportResult :=
  if transport.isFake then fakeChatCompletion formats network.mode
  else liveChatCompletion formats transport.baseUrl network.exchange

/-- The response as far as it arrives, whether the client keeps it or not. -/
def arrived (formats : TextFormats) (transport : OpenRouterTransport) (network : Network) :
    Option TransportResult :=
  if transport.isFake then
    match network.mode with
    | .stream events usage => some (streamResult formats events usage)
    | mode => (fakeChatCompletion formats mode).toOption
  else
    match parseLiveEndpoint transport.baseUrl, network.exchange with
    | .ok _, .readTimedOut response | .ok _, .readFailed response | .ok _, .received response =>
      (splitHttpBody response).toOption.map fun body => ⟨body, extractUsageFromSse formats body⟩
    | _, _ => none

/-- Whether the request was written, at least in part. -/
def Exchange.mayHaveSent : Exchange → Bool
  | .invalidServerName | .connectTimedOut | .connectFailed | .handshakeFailed => false
  | _ => true

def mayHaveSent (transport : OpenRouterTransport) (network : Network) : Bool :=
  transport.isFake || ((parseLiveEndpoint transport.baseUrl).toBool && network.exchange.mayHaveSent)

/-- The kinds of a transport error that `prompt_stream` reports as definite. -/
def OpenRouterErrorKind.isPreDispatch : OpenRouterErrorKind → Bool
  | .credentialMissing | .credentialEmpty | .budgetExceeded | .invalidConfig => true
  | _ => false

theorem fakeChatCompletion_error {mode : FakeHttpMode}
    (h : fakeChatCompletion formats mode = .error error) : error.kind.isPreDispatch = false := by
  unfold fakeChatCompletion at h
  cases mode with
  | stream | oversized =>
    dsimp only at h
    split at h
    · cases h
      rfl
    · cases h
  | transportError =>
    cases h
    rfl
  | invalidUtf8 | truncatedSse | invalidJson | midStreamFailure => cases h

theorem splitHttpBody_error {response : Bytes} (h : splitHttpBody response = .error error) :
    error.kind.isPreDispatch = false := by
  induction response with
  | nil =>
    cases h
    rfl
  | cons byte rest ih =>
    unfold splitHttpBody at h
    split at h
    · cases h
    · exact ih h

theorem liveHttpsExchange_error {exchange : Exchange}
    (h : liveHttpsExchange exchange = .error error) (hkind : error.kind.isPreDispatch) :
    exchange.mayHaveSent = false := by
  unfold liveHttpsExchange at h
  cases exchange with
  | received =>
    dsimp only at h
    split at h
    · cases h
      cases hkind
    · cases h
  | invalidServerName | connectTimedOut | connectFailed | handshakeFailed => rfl
  | writeFailed | flushFailed | readTimedOut | readFailed =>
    cases h
    cases hkind

/-- A request that fails in one of these kinds was never written. -/
theorem mayHaveSent_of_isPreDispatch {transport : OpenRouterTransport} {network : Network}
    (h : chatCompletion formats transport network = .error error)
    (hkind : error.kind.isPreDispatch) : mayHaveSent transport network = false := by
  unfold chatCompletion at h
  split at h
  · rw [fakeChatCompletion_error h] at hkind
    cases hkind
  next hfake =>
  unfold mayHaveSent
  rw [Bool.eq_false_iff.mpr hfake, Bool.false_or]
  unfold liveChatCompletion at h
  cases hendpoint : parseLiveEndpoint transport.baseUrl with
  | error _ => rfl
  | ok endpoint =>
    rw [hendpoint] at h
    cases hexchange : liveHttpsExchange network.exchange with
    | error other =>
      rw [hexchange] at h
      cases h
      exact liveHttpsExchange_error hexchange hkind
    | ok response =>
      rw [hexchange] at h
      change (splitHttpBody response >>= _) = _ at h
      cases hbody : splitHttpBody response with
      | error other =>
        rw [hbody] at h
        cases h
        rw [splitHttpBody_error hbody] at hkind
        cases hkind
      | ok body =>
        rw [hbody] at h
        change (if body.length > maxBodyBytes then _ else _) = _ at h
        split at h
        · cases h
          cases hkind
        · cases h

end Workbench.Openrouter
