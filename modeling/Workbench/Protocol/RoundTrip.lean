import Workbench.Library.JsonText
import Workbench.Protocol.Reply

/-!
# Protocol: what is encoded is decoded

A command that passes its checks is read back from its frame as it was.  A reply is read
back too, unless it is a success whose result is written as null: the decoder takes a null
result for an absent one.
-/

namespace Workbench.Protocol

open Library Json List

/-! ## Commands -/

@[simp] theorem isOrdered_ofUuid (id : Uuid) : (ofUuid id).isOrdered := rfl

@[simp] theorem isOrdered_ofU16 (n : UInt16) : (ofU16 n).isOrdered := rfl

@[simp] theorem isOrdered_ofJsonMap (map : JsonMap) : (ofJsonMap map).isOrdered :=
  map.ordered

theorem paramsValue_isOrdered (command : Command) : command.paramsValue.isOrdered := by
  cases command <;>
    · apply isOrdered_record
      simp

section

variable (serde : SerdeJson)

theorem derived_map {α : Type} {read : Json → Option α} {value : Json} {result : α}
    (h : read value = some result) (variant : α → Command) :
    (derived serde read value).map variant = .ok (variant result) := by
  simp [derived, h, Except.map]

theorem parseCommand_paramsValue (command : Command) :
    parseCommand serde command.method command.paramsValue = .ok command := by
  cases command with
  | initializeProtocol params | sessionCreate params | sessionList params | sessionAttach params
  | sessionPrompt params | sessionRedirect params | sessionApprovalResolve params
  | sessionReconcile params | sessionExport params | sessionDelete params =>
    exact derived_map serde params.fromValue_toValue _
  | statusGet params | sessionGet params | sessionPause params | sessionResume params
  | sessionCancel params => exact derived_map serde params.fromValue_toValue _

variable (message : ClientCommand)

theorem members_nodup : (message.members.map Prod.fst).Nodup := by
  cases message with
  | mk _ _ sessionId =>
    cases sessionId <;> simp [ClientCommand.members]

theorem members_isOrdered : ∀ entry ∈ message.members, entry.2.isOrdered := by
  cases message with
  | mk _ _ sessionId =>
    cases sessionId <;> simp [ClientCommand.members, paramsValue_isOrdered]

theorem lookup_members :
    message.members.lookup "protocol" = some (.string message.protocol)
      ∧ message.members.lookup "request_id" = some (ofUuid message.requestId)
      ∧ message.members.lookup "method" = some (.string message.command.method)
      ∧ message.members.lookup "session_id" = message.sessionId.map ofUuid
      ∧ message.members.lookup "params" = some message.command.paramsValue := by
  cases message with
  | mk _ _ sessionId =>
    cases sessionId <;> simp [ClientCommand.members, lookup_cons_eq_ite]

theorem members_known : ∀ entry ∈ message.members,
    entry.1 ∈ ["protocol", "request_id", "method", "session_id", "params"] := by
  cases message with
  | mk _ _ sessionId =>
    cases sessionId <;> simp [ClientCommand.members]

theorem isRecord_object {names : List String} {least : Nat} {members : List (String × Json)}
    (h : ∀ entry ∈ members, entry.1 ∈ names) :
    (object members).isRecord names least := by
  simpa [isRecord] using h

variable {message} {result : List (String × Json)}

/-- A command is found in the map that strict decoding makes of its members. -/
theorem rawCommand_fromValue (hlookup : ∀ key, result.lookup key = message.members.lookup key)
    (hmem : ∀ entry ∈ result, entry ∈ message.members) :
    RawCommand.fromValue (.object result)
      = some ⟨message.protocol, message.requestId, message.command.method, message.sessionId,
        message.command.paramsValue⟩ := by
  have hrecord : (object result).isRecord
      ["protocol", "request_id", "method", "session_id", "params"] 5 = true :=
    isRecord_object fun entry hentry => members_known message entry (hmem entry hentry)
  obtain ⟨hprotocol, hrequest, hmethod, hsession, hparams⟩ := lookup_members message
  simp [RawCommand.fromValue, hrecord, required, Json.optional, hlookup, hprotocol, hrequest,
    hmethod, hsession, hparams]

theorem fromValue_of_valid (hvalid : message.Valid)
    (hlookup : ∀ key, result.lookup key = message.members.lookup key)
    (hmem : ∀ entry ∈ result, entry ∈ message.members) :
    ClientCommand.fromValue serde (.object result) = .ok message := by
  have hraw : derived serde RawCommand.fromValue (.object result) = .ok
      ⟨message.protocol, message.requestId, message.command.method, message.sessionId,
        message.command.paramsValue⟩ := by
    rw [derived, rawCommand_fromValue hlookup hmem]
  have hrequest : requireUuidV7 message.requestId "request_id" = .ok () := by
    simp [requireUuidV7, hvalid.requestId]
  have hsession : validateOptional (requireUuidV7 · "session_id") message.sessionId = .ok () := by
    cases hid : message.sessionId with
    | none => rfl
    | some sessionId => simp [validateOptional, requireUuidV7, hvalid.sessionId sessionId hid]
  unfold ClientCommand.fromValue
  rw [hraw]
  show (if message.protocol ≠ protocolV1 then _ else _) = _
  rw [if_neg (not_not.mpr hvalid.protocol)]
  rw [hrequest]
  rw [hsession]
  rw [parseCommand_paramsValue]
  show (if message.command.requiresSession ≠ message.sessionId.isSome then _ else _) = _
  rw [if_neg (not_not.mpr hvalid.session)]
  rw [hvalid.command]
  rfl

end

/-! ## Frames -/

section

variable {serde : SerdeJson} {Inbound Outbound : Type} {fromValue : Json → Except String Inbound}
  {toValue : Outbound → Except String Json} {item : Outbound} {tree : Json}

theorem encode_eq_ok {frame : List UInt8} :
    encode serde toValue item [] = .ok frame ↔ ∃ tree, toValue item = .ok tree ∧
      (serde.print tree).length ≤ maxFrameBytes ∧ frame = serde.print tree ++ [newline] := by
  unfold encode
  cases htree : toValue item with
  | error message => exact ⟨nofun, nofun⟩
  | ok tree =>
    change (if maxFrameBytes < (serde.print tree).length then _ else _) = _ ↔ _
    split
    · next hlarge => exact ⟨nofun, fun ⟨_, rfl, hsmall, _⟩ => absurd hlarge (Nat.not_lt.mpr hsmall)⟩
    next hsmall =>
    refine ⟨?_, ?_⟩
    · rintro ⟨⟩
      exact ⟨tree, rfl, Nat.le_of_not_lt hsmall, rfl⟩
    · rintro ⟨_, ⟨⟩, -, rfl⟩
      rfl

/-- A frame that was printed is decoded from the tree that was printed. -/
theorem decode_printed {strict : Json} (hsmall : (serde.print tree).length ≤ maxFrameBytes)
    (hstrict : strictValue tree = .ok strict) (hprotocol : hasOtherProtocol strict = false) :
    decode serde fromValue (serde.print tree ++ [newline])
      = (((fromValue strict).mapError ProtocolCodecError.invalidJson).map some, []) := by
  have hframe : frameItem serde fromValue (serde.print tree)
      = (fromValue strict).mapError ProtocolCodecError.invalidJson := by
    rw [frameItem, if_neg (Nat.not_lt.mpr hsmall), decodeFrame,
      if_neg (serde.print_ne_nil tree), serde.parse_print]
    show ((strictValue tree).mapError ProtocolCodecError.invalidJson >>= _) = _
    rw [hstrict]
    show (if hasOtherProtocol strict = true then _ else _) = _
    rw [hprotocol]
    rfl
  rcases decode_cases serde fromValue (serde.print tree ++ [newline]) with
    ⟨hmem, -, -⟩ | ⟨hmem, -, -⟩ | ⟨frame, rest, hmem, hsplit, hdecode⟩
  · simp at hmem
  · simp at hmem
  -- The printed text has no newline of its own, so the frame ends where it ends.
  have hframes := frames_append_newline (serde.newline_not_mem_print tree) []
  rw [hsplit, frames_append_newline hmem] at hframes
  have hsame : frame = serde.print tree := (cons.inj (Prod.mk.inj hframes).1).1
  rw [hsame] at hsplit hdecode
  have hrest := (cons.inj (append_cancel_left hsplit)).2
  rw [hdecode, ← hrest, hframe]

end

/-! ## Replies -/

theorem protocolError_members (error : ProtocolError) :
    ∃ strict, strictValue error.toValue = .ok strict
      ∧ readOptional ProtocolError.fromValue (some strict) = some (some error) := by
  have hordered : ∀ entry ∈ [("code", ofVariant ErrorCode.variants error.code),
      ("message", .string error.message), ("retryable", .bool error.retryable),
      ("correlation_id", ofUuid error.correlationId)], entry.2.isOrdered = true := by
    simp
  obtain ⟨result, hresult, hlookup, hmem⟩ :=
    strictValue_object (MembersDecode.of_isOrdered hordered) (by simp)
  refine ⟨_, hresult, ?_⟩
  have hrecord : (object result).isRecord
      ["code", "message", "retryable", "correlation_id"] 4 = true := by
    refine isRecord_object fun entry hentry => ?_
    have hknown := hmem entry hentry
    simp only [mem_cons, not_mem_nil, or_false] at hknown
    rcases hknown with rfl | rfl | rfl | rfl <;> simp
  have hcode : asVariant ErrorCode.variants (.ofVariant ErrorCode.variants error.code)
      = some error.code := by
    cases error.code <;> rfl
  simp [readOptional, ProtocolError.fromValue, hrecord, required, hlookup,
    lookup_cons_eq_ite, hcode]

theorem strictValue_eq_null {value : Json} (h : strictValue value = .ok .null) : value = .null := by
  cases value with
  | null => rfl
  | bool | number | string => cases h
  | array items =>
    rw [strictValue] at h
    cases hitems : strictItems items with
    | error message | ok values => rw [hitems] at h; cases h
  | object members =>
    rw [strictValue] at h
    cases hmembers : strictMembers [] members with
    | error message | ok values => rw [hmembers] at h; cases h

section

variable {T : Type} {resultType : ResultType T}

theorem readOptional_result (result : T) :
    readOptional resultType.fromValue (some (resultType.strict result))
      = some (if resultType.strict result = .null then none else some result) := by
  rw [readOptional.eq_def]
  split
  · next h => cases h
  · next h => rw [if_pos (Option.some.inj h)]
  · next child hnull h =>
      cases h
      rw [if_neg fun hnone => hnull (by rw [hnone]), resultType.fromValue_strict, Option.map_some]

theorem strict_eq_null {result : T} :
    resultType.strict result = .null ↔ resultType.toValue result = .null := by
  constructor
  · intro h
    exact strictValue_eq_null (by rw [resultType.strict_toValue, h])
  · intro h
    have hstrict := resultType.strict_toValue result
    rw [h] at hstrict
    exact (Except.ok.inj hstrict).symm

/-- The members of a reply, with its outcome under this key. -/
def replyMembers (requestId : Uuid) (ok : Bool) (key : String) (child : Json) :
    List (String × Json) :=
  [("protocol", .string protocolV1), ("request_id", ofUuid requestId), ("ok", .bool ok),
    (key, child)]

variable (serde : SerdeJson)

/-- A reply is its three first members and its outcome, a result or an error by its key. -/
theorem reply_fromValue (requestId : Uuid) (ok : Bool) {key : String} {child strict : Json}
    {outcome : Option T} {error : Option ProtocolError} (hkey : key = "result" ∨ key = "error")
    (hchild : strictValue child = .ok strict)
    (houtcome : readOptional resultType.fromValue ([(key, strict)].lookup "result")
      = some outcome)
    (herror : readOptional ProtocolError.fromValue ([(key, strict)].lookup "error")
      = some error) :
    ∃ value, strictValue (.object (replyMembers requestId ok key child)) = .ok value
      ∧ hasOtherProtocol value = false
      ∧ ServerReply.fromValue resultType serde value
        = RawReply.intoReply ⟨protocolV1, requestId, ok, outcome, error⟩ := by
  have hdecode : MembersDecode (replyMembers requestId ok key child)
      (replyMembers requestId ok key strict) :=
    .cons ⟨rfl, rfl⟩ (.cons ⟨rfl, rfl⟩ (.cons ⟨rfl, rfl⟩ (.cons ⟨rfl, hchild⟩ .nil)))
  obtain ⟨result, hresult, hlookup, hmem⟩ := strictValue_object hdecode
    (by rcases hkey with rfl | rfl <;> simp [replyMembers])
  have hrecord : (object result).isRecord
      ["protocol", "request_id", "ok", "result", "error"] 3 = true := by
    refine isRecord_object fun entry hentry => ?_
    grind [replyMembers]
  have hraw : RawReply.fromValue resultType (.object result)
      = some ⟨protocolV1, requestId, ok, outcome, error⟩ := by
    rcases hkey with rfl | rfl <;>
      simp_all [RawReply.fromValue, required, Json.optional, replyMembers,
        lookup_cons_eq_ite]
  refine ⟨_, hresult, by simp [hasOtherProtocol, hlookup, replyMembers], ?_⟩
  rw [ServerReply.fromValue, derived, hraw]
  rfl

end

/-! ## Round trips -/

theorem mapError_map_eq_ok {α : Type} {result : Except String α} {value : α} :
    ((result.mapError ProtocolCodecError.invalidJson).map some, ([] : List UInt8))
        = (.ok (some value), [])
      ↔ result = .ok value := by
  cases result <;> simp [Except.mapError, Except.map]

/-- Every command that passes its checks and every reply that the encoder accepts is read
back from its frame as it was, but for the successes whose result is written as null. -/
theorem wire_round_trip_iff (serde : SerdeJson) {T : Type} (resultType : ResultType T) :
    (∀ message frame, ClientCommand.Valid message →
        encode serde ClientCommand.toValue message [] = .ok frame →
        decode serde (ClientCommand.fromValue serde) frame = (.ok (some message), []))
      ∧ ∀ (reply : ServerReply T) frame,
        encode serde (ServerReply.toValue resultType) reply [] = .ok frame →
        (decode serde (ServerReply.fromValue resultType serde) frame = (.ok (some reply), [])
          ↔ ¬ reply.hasNullResult resultType) := by
  constructor
  · intro message frame hvalid hencode
    obtain ⟨tree, htree, hsmall, rfl⟩ := encode_eq_ok.mp hencode
    cases htree
    obtain ⟨result, hresult, hlookup, hmem⟩ := strictValue_object
      (MembersDecode.of_isOrdered (members_isOrdered message)) (members_nodup message)
    have hprotocol : hasOtherProtocol (.object result) = false := by
      simp [hasOtherProtocol, hlookup, (lookup_members message).1, hvalid.protocol]
    rw [decode_printed hsmall hresult hprotocol, fromValue_of_valid serde hvalid hlookup hmem]
    rfl
  · intro reply frame hencode
    obtain ⟨tree, htree, hsmall, rfl⟩ := encode_eq_ok.mp hencode
    cases reply with
    | success requestId outcome =>
      cases htree
      obtain ⟨strict, hstrict, hprotocol, hread⟩ := reply_fromValue serde requestId true
        (.inl rfl) (resultType.strict_toValue outcome) (readOptional_result outcome) rfl
      rw [decode_printed hsmall hstrict hprotocol, mapError_map_eq_ok, hread]
      -- a null outcome is the one that is not read as it was
      change _ ↔ ¬ resultType.toValue outcome = .null
      rw [← strict_eq_null]
      by_cases hnull : resultType.strict outcome = .null
      · rw [if_pos hnull]
        exact ⟨fun h => (nomatch h), fun h => absurd hnull h⟩
      · rw [if_neg hnull]
        exact ⟨fun _ => hnull, fun _ => rfl⟩
    | failure requestId error =>
      cases hvalid : error.validate with
      | error message =>
        rw [ServerReply.toValue, hvalid] at htree
        cases htree
      | ok u =>
        rw [ServerReply.toValue, hvalid] at htree
        cases htree
        obtain ⟨_, herror, hreads⟩ := protocolError_members error
        obtain ⟨strict, hstrict, hprotocol, hread⟩ := @reply_fromValue _ resultType serde requestId
          false _ _ _ none _ (.inr rfl) herror rfl hreads
        rw [decode_printed hsmall hstrict hprotocol, mapError_map_eq_ok, hread]
        refine ⟨fun _ => not_false, fun _ => ?_⟩
        show (error.validate >>= _) = _
        rw [hvalid]
        rfl

/-! ## A printer and a parser -/

/-- The bytes of the compact text of a value. -/
def printedJson (format : FloatFormat) (value : Json) : List UInt8 :=
  (render format value).flatMap String.utf8EncodeChar

theorem printedJson_injective (format : FloatFormat) : Function.Injective (printedJson format) := by
  intro first second h
  have hbytes : (toText format first).toByteArray = (toText format second).toByteArray := by
    exact congrArg toByteArray h
  exact toText_injective format (String.toByteArray_inj.mp hbytes)

/-- In UTF-8 the newline byte stands for the newline only. -/
theorem eq_newline_of_mem_utf8EncodeChar {c : Char} (h : newline ∈ String.utf8EncodeChar c) :
    c = '\n' := by
  have hbyte : ∀ n, newline = UInt8.ofNat n → n % 256 = 10 := by
    intro n hn
    have hnat := congrArg UInt8.toNat hn
    simpa [newline] using hnat.symm
  unfold String.utf8EncodeChar at h
  simp only at h
  split_ifs at h with hone htwo hthree
  · have hten := hbyte _ (mem_singleton.mp h)
    apply Char.ext
    apply UInt32.toNat_inj.mp
    show c.val.toNat = 10
    omega
  · simp only [mem_cons, not_mem_nil, or_false] at h
    rcases h with h | h <;> · have := hbyte _ h; omega
  · simp only [mem_cons, not_mem_nil, or_false] at h
    rcases h with h | h | h <;> · have := hbyte _ h; omega
  · simp only [mem_cons, not_mem_nil, or_false] at h
    rcases h with h | h | h | h <;> · have := hbyte _ h; omega

/-- The texts of values, read back by their bytes. -/
noncomputable def renderedJson (format : FloatFormat) : SerdeJson where
  print := printedJson format
  parse bytes :=
    open Classical in
    if h : ∃ value, printedJson format value = bytes then .ok h.choose else .error "not a value"
  mismatch _ := "not a value of the type"
  parse_print value := by
    have hex : ∃ other, printedJson format other = printedJson format value := ⟨value, rfl⟩
    rw [dif_pos hex, printedJson_injective format hex.choose_spec]
  print_ne_nil value := by
    obtain ⟨c, rest, hrender⟩ := exists_cons_of_ne_nil (render_ne_nil format value)
    have hlength := String.length_utf8EncodeChar c
    have hsize := c.utf8Size_pos
    intro hnil
    rw [printedJson, hrender, flatMap_cons, append_eq_nil_iff] at hnil
    rw [hnil.1, length_nil] at hlength
    omega
  newline_not_mem_print value hmem := by
    obtain ⟨c, hc, hbyte⟩ := mem_flatMap.mp hmem
    rw [eq_newline_of_mem_utf8EncodeChar hbyte] at hc
    exact newline_not_mem_render format value hc

/-- The type of the results that the daemon sends: any JSON value. -/
def jsonValues : ResultType { value : Json // value.isOrdered } where
  toValue result := result.val
  fromValue value := if h : value.isOrdered = true then some ⟨value, h⟩ else none
  strict result := result.val
  strict_toValue result := strictValue_of_isOrdered result.property
  fromValue_strict result := by simp [result.property]

section

local instance neZeroSixteen : NeZero 16 := ⟨by decide⟩

/-- The identifier of version 7 with this last digit and no other bits. -/
def sampleId (last : Fin 16) : Uuid :=
  ⟨replicate 12 0 ++ 7 :: replicate 18 0 ++ [last], by simp⟩

/-- A prompt that passes its checks. -/
def samplePrompt : ClientCommand where
  protocol := protocolV1
  requestId := sampleId 1
  sessionId := some (sampleId 2)
  command := .sessionPrompt { text := "line\nbreak", explicitTarget := none }

end

/-- A prompt with a newline in its text is read back from its frame. -/
theorem samplePrompt_round_trip :
    ∃ frame, encode (renderedJson ratioFormat) ClientCommand.toValue samplePrompt []
        = .ok frame
      ∧ decode (renderedJson ratioFormat)
          (ClientCommand.fromValue (renderedJson ratioFormat)) frame
        = (.ok (some samplePrompt), []) := by
  have hsmall : (printedJson ratioFormat (.object samplePrompt.members)).length
      ≤ maxFrameBytes := by
    decide +kernel
  have hencode : encode (renderedJson ratioFormat) ClientCommand.toValue samplePrompt []
      = .ok ((renderedJson ratioFormat).print (.object samplePrompt.members) ++ [newline]) :=
    encode_eq_ok.mpr ⟨_, rfl, hsmall, rfl⟩
  refine ⟨_, hencode, (wire_round_trip_iff _ jsonValues).1 samplePrompt _ ?_ hencode⟩
  exact ⟨rfl, by decide, fun _ h => by cases h; decide, rfl, rfl⟩

/-- The encoder accepts a success with a null result, and the decoder refuses its frame. -/
theorem null_result_not_read_back :
    ∃ frame, encode (renderedJson ratioFormat) (ServerReply.toValue jsonValues)
          (.success (sampleId 1) ⟨.null, rfl⟩) [] = .ok frame
      ∧ decode (renderedJson ratioFormat)
          (ServerReply.fromValue jsonValues (renderedJson ratioFormat)) frame
        = (.error (.invalidJson "reply must contain exactly one valid outcome"), []) := by
  have hsmall : (printedJson ratioFormat
      (.object (replyMembers (sampleId 1) true "result" .null))).length ≤ maxFrameBytes := by
    decide +kernel
  have hstrict : strictValue (.object (replyMembers (sampleId 1) true "result" .null))
      = .ok (.object [("ok", .bool true), ("protocol", .string protocolV1),
        ("request_id", ofUuid (sampleId 1)), ("result", .null)]) := rfl
  exact ⟨_, encode_eq_ok.mpr ⟨_, rfl, hsmall, rfl⟩, decode_printed hsmall hstrict rfl⟩

end Workbench.Protocol
