import Workbench.Mcp.Transport

/-!
# Mcp: what a response is read as

A line of a child is bounded once it is complete and an HTTP response before it grows, so
only the second reader holds a bounded number of bytes.  An HTTP response is a success for
`parse_http_response` unless it announces a redirect or carries an `error` member: its
status, its framing and the JSON-RPC envelope are not looked at.
-/

namespace Workbench.Mcp

open Library List

/-! ## Bytes held while waiting -/

/-- The size of the buffer that one read fills. -/
def readBuffer : Nat := 8192

/-- `readLine` with the bytes it holds at each of its points. -/
def readLineHeld (taken buffered : Bytes) : List Arrival → (LineRead × Bytes) × List Nat
  | .data bytes :: later =>
    if (firstLine buffered).isSome then
      (readLine taken buffered (.data bytes :: later), [taken.length + buffered.length])
    else
      let (read, held) := readLineHeld (taken ++ buffered) bytes later
      (read, (taken.length + buffered.length) :: held)
  | arrivals => (readLine taken buffered arrivals, [taken.length + buffered.length])

/-- `readToEnd` with the bytes it holds at each point, those of the read buffer included. -/
def readToEndHeld (maxBytes : Nat) (response : Bytes) : List Arrival → ResponseRead × List Nat
  | .data bytes :: later =>
    if maxBytes + 4096 < response.length + bytes.length then
      (.tooLarge, [response.length + bytes.length])
    else
      let (read, held) := readToEndHeld maxBytes (response ++ bytes) later
      (read, (response.length + bytes.length) :: held)
  | arrivals => (readToEnd maxBytes response arrivals, [response.length])

/-- The output of a child up to the end of the read that brings the first line feed. -/
def untilLine (buffered : Bytes) : List Arrival → Bytes
  | .data bytes :: later =>
    if (firstLine buffered).isSome then buffered else buffered ++ untilLine bytes later
  | _ => buffered

section

variable {arrivals : List Arrival} {bound maxBytes : Nat}

/-- What is held is written down beside what the reader does. -/
theorem readLineHeld_fst (taken buffered : Bytes) :
    (readLineHeld taken buffered arrivals).1 = readLine taken buffered arrivals := by
  induction arrivals generalizing taken buffered with
  | nil => rfl
  | cons arrival later ih =>
    cases arrival with
    | closed | failed => rfl
    | data bytes =>
      rw [readLineHeld]
      split
      · rfl
      · next hnone =>
        rw [Option.not_isSome_iff_eq_none] at hnone
        rw [readLine, hnone]
        exact ih _ _

theorem readToEndHeld_fst (response : Bytes) :
    (readToEndHeld maxBytes response arrivals).1 = readToEnd maxBytes response arrivals := by
  induction arrivals generalizing response with
  | nil => rfl
  | cons arrival later ih =>
    cases arrival with
    | closed | failed => rfl
    | data bytes =>
      rw [readToEndHeld, readToEnd]
      split
      · rfl
      · exact ih _

theorem lineHeld_le_iff {taken buffered : Bytes} :
    (∀ held ∈ (readLineHeld taken buffered arrivals).2, held ≤ bound) ↔
      taken.length + (untilLine buffered arrivals).length ≤ bound := by
  induction arrivals generalizing taken buffered with
  | nil => simp [readLineHeld, untilLine]
  | cons arrival later ih =>
    cases arrival with
    | closed | failed => simp [readLineHeld, untilLine]
    | data bytes =>
      rw [readLineHeld, untilLine]
      split
      · simp
      · rw [forall_mem_cons, ih, length_append, length_append]
        omega

/-- The response is checked before it grows. -/
theorem responseHeld_le {response : Bytes} (hresponse : response.length ≤ maxBytes + 4096)
    (hreads : ∀ bytes, .data bytes ∈ arrivals → bytes.length ≤ readBuffer) :
    ∀ held ∈ (readToEndHeld maxBytes response arrivals).2,
      held ≤ maxBytes + 4096 + readBuffer := by
  induction arrivals generalizing response with
  | nil => simp [readToEndHeld]; omega
  | cons arrival later ih =>
    cases arrival with
    | closed | failed => simp [readToEndHeld]; omega
    | data bytes =>
      have hread := hreads bytes mem_cons_self
      rw [readToEndHeld]
      split
      · simp; omega
      · rw [forall_mem_cons]
        refine ⟨by omega, ih ?_ fun more hmore => hreads more (mem_cons_of_mem _ hmore)⟩
        rw [length_append]
        omega

/-- The readers of the transports keep to the limits exactly if the child ends its line in time. -/
theorem held_within_limits_iff {buffered : Bytes} {responses : List Arrival}
    (hreads : ∀ bytes, .data bytes ∈ responses → bytes.length ≤ readBuffer)
    (maxFrameBytes : Nat) :
    (readLineHeld [] buffered arrivals).1 = readLine [] buffered arrivals ∧
      (readToEndHeld maxBytes [] responses).1 = readToEnd maxBytes [] responses ∧
      (((∀ held ∈ (readLineHeld [] buffered arrivals).2, held ≤ maxFrameBytes + readBuffer) ∧
          ∀ held ∈ (readToEndHeld maxBytes [] responses).2,
            held ≤ maxBytes + 4096 + readBuffer) ↔
        (untilLine buffered arrivals).length ≤ maxFrameBytes + readBuffer) := by
  refine ⟨readLineHeld_fst _ _, readToEndHeld_fst _, ?_⟩
  rw [lineHeld_le_iff, length_nil, Nat.zero_add]
  exact and_iff_left (responseHeld_le (Nat.zero_le _) hreads)

end

/-- A line and a response that come in several reads. -/
theorem short_line_within_limits :
    readLine [] [120] [.data [121, 122], .data [lineFeed, 120]]
        = (.line [120, 121, 122, lineFeed], [120]) ∧
      readToEnd 2 [] [.data [123], .data [34, 34], .data [125], .closed]
        = .response [123, 34, 34, 125] ∧
      (∀ held ∈ (readLineHeld [] [120] [.data [121, 122], .data [lineFeed, 120]]).2,
        held ≤ 4 + readBuffer) ∧
      ∀ held ∈ (readToEndHeld 2 [] [.data [123], .data [34, 34], .data [125], .closed]).2,
        held ≤ 2 + 4096 + readBuffer := by
  have hreads : ∀ bytes, Arrival.data bytes ∈
      [.data [123], .data [34, 34], .data [125], .closed] → bytes.length ≤ readBuffer := by
    simp [readBuffer]
  obtain ⟨-, -, hheld⟩ := @held_within_limits_iff _ 2 [120] _ hreads 4
  exact ⟨by decide, by decide, hheld.mpr (by decide)⟩

/-- A full read without a line feed. -/
def endlessRead : Arrival := .data (replicate readBuffer 120)

theorem untilLine_endless (size count : Nat) :
    (untilLine (replicate size 120) (replicate count endlessRead)).length
      = size + count * readBuffer := by
  induction count generalizing size with
  | zero => simp [untilLine]
  | succ count ih =>
    have hfree : firstLine (replicate size 120) = none := by
      rw [firstLine_eq_none]
      simp [lineFeed]
    rw [replicate_succ, endlessRead, untilLine, hfree, ← endlessRead]
    simp [ih, Nat.succ_mul, Nat.add_comm]

/-- A child that never ends its line is read on beyond the limit. -/
theorem endless_line_held :
    ∃ held ∈ (readLineHeld [] [] (replicate 1026 endlessRead)).2,
      defaultMaxFrameBytes + readBuffer < held := by
  by_contra hbounded
  have hlength := untilLine_endless 0 1026
  have hheld := lineHeld_le_iff.mp fun held hmem =>
    Nat.le_of_not_lt fun hlt => hbounded ⟨held, hmem, hlt⟩
  rw [replicate_zero] at hlength
  rw [hlength] at hheld
  simp [defaultMaxFrameBytes, readBuffer] at hheld

/-! ## Successes -/

/-- The first header field of a name. -/
def headerField (name : String) (header : Text) : Option Text :=
  header.lines.findSome? fun line =>
    (dropPrefix? (Text.asciiLower line) (name ++ ":").toList).map Text.trim

/-- The status is one of the 2xx codes. -/
def isSuccess (header : Text) : Bool :=
  match header.lines.head?.bind (Text.splitOnce " ".toList) with
  | some (_, '2' :: first :: second :: reason) =>
    first.isDigit && second.isDigit && (reason.head?.all (· = ' '))
  | _ => false

/-- A body without transfer coding has the announced length, or ends with the connection. -/
def isComplete (header body : Text) : Bool :=
  (headerField "transfer-encoding" header).isNone &&
    (headerField "content-length" header).all fun length =>
      Text.parseUnsigned (2 ^ 64) length = some body.utf8Length

/-- A JSON-RPC response to the request of a call. -/
def isReply (message : Json) : Bool :=
  decide (message.member "jsonrpc" = some (.string "2.0")) &&
    decide (message.member "id" = some (.number (.natural 1)))

def lineEnd : Text := "\r\n".toList

/-- The size of a chunk in hexadecimal digits. -/
def IsSize (size : Text) (count : Nat) : Prop :=
  ∃ zeros, Text.asciiLower size = replicate zeros '0' ++ Nat.toDigits 16 count

/-- A complete body in the chunked transfer coding, and its content. -/
inductive Chunked : Text → Text → Prop where
  | last {size : Text} : IsSize size 0 → Chunked (size ++ lineEnd ++ lineEnd) []
  | chunk {size data rest content : Text} : data ≠ [] → IsSize size data.utf8Length →
      Chunked rest content → Chunked (size ++ lineEnd ++ data ++ lineEnd ++ rest) (data ++ content)

/-- The content of a complete body, by the framing that its header announces. -/
inductive Framed (header body : Text) : Text → Prop where
  | plain : isComplete header body → Framed header body body
  | chunked {content : Text} : headerField "transfer-encoding" header = some "chunked".toList →
      Chunked body content → Framed header body content

/-- The response is a real success of a call, and the value is its result. -/
def Succeeds (wire : Wire) (header body : Text) (value : Json) : Prop :=
  isSuccess header ∧ ∃ content message, Framed header body content ∧
    wire.fromStr content = some message ∧ isReply message ∧
    message.member "result" = some value

/-- The header and the body of a response. -/
def headAndBody (wire : Wire) (raw : Bytes) : Option (Text × Text) :=
  (wire.fromUtf8 raw).bind (Text.splitOnce "\r\n\r\n".toList)

/-- The call gets as far as a response, which has these bytes. -/
def Received (wire : Wire) (io : HttpIo) (operation : String) (arguments : Json) (maxBytes : Nat)
    (raw : Bytes) : Prop :=
  ∃ request, wire.toVec (toolsCall 1 operation arguments) = some request ∧
    request.length ≤ maxBytes ∧ io.sending.complete ∧
    readToEnd maxBytes [] io.arrivals = .response raw

/-- The message that a response is taken for. -/
structure Accepted (wire : Wire) (maxBytes : Nat) (header body : Text) (message : Json) :
    Prop where
  status : ∃ statusLine, header.lines.head? = some statusLine ∧ isRedirect statusLine = false
  size : body.utf8Length ≤ maxBytes
  parsed : wire.fromStr body = some message
  noError : message.member "error" = none

section

variable {wire : Wire} {identity : HttpIdentity} {maxBytes : Nat} {value : Json}

theorem Chunked.length_lt {body content : Text} (h : Chunked body content) :
    content.length < body.length := by
  induction h with
  | last => simp [lineEnd]
  | chunk => simp [lineEnd]; omega

theorem parseHttpResponse_eq_ok {raw : Bytes} :
    parseHttpResponse wire raw identity maxBytes = .ok value ↔
      ∃ header body message, headAndBody wire raw = some (header, body) ∧
        Accepted wire maxBytes header body message ∧
        (message.member "result").getD message = value := by
  constructor
  · intro h
    unfold parseHttpResponse at h
    repeat' split at h
    all_goals cases h
    rename_i text htext _ header body hparts _ statusLine hline hstatus hsize _ message hparsed
      herror
    have hsplit : headAndBody wire raw = some (header, body) := by
      rw [headAndBody, htext, Option.bind_some, hparts]
    exact ⟨header, body, message, hsplit, ⟨⟨statusLine, hline, by simpa using hstatus⟩,
      Nat.not_lt.mp hsize, hparsed, by simpa using herror⟩, rfl⟩
  · rintro ⟨header, body, message, hsplit, ⟨⟨statusLine, hline, hstatus⟩, hsize, hparsed, herror⟩,
      rfl⟩
    obtain ⟨text, htext, hparts⟩ := Option.bind_eq_some_iff.mp hsplit
    simp only [parseHttpResponse, htext, hparts, hline, hstatus, Nat.not_lt.mpr hsize, hparsed,
      herror, Option.isSome_none, if_false, Bool.false_eq_true]

theorem exchangeHttp_eq_ok {io : HttpIo} {operation : String} {arguments : Json} :
    (exchangeHttp wire io identity operation arguments maxBytes).2 = .ok value ↔
      ∃ raw, Received wire io operation arguments maxBytes raw ∧
        parseHttpResponse wire raw identity maxBytes = .ok value := by
  unfold exchangeHttp Received
  cases wire.toVec (toolsCall 1 operation arguments) with
  | none => simp
  | some request =>
    by_cases hsize : maxBytes < request.length
    · simp [hsize]
    cases hsent : io.sending.complete with
    | false => simp [hsize]
    | true =>
      cases hread : readToEnd maxBytes [] io.arrivals with
      | response raw => simp [hsize, Nat.not_lt.mp hsize]
      | tooLarge | failed | timedOut => simp [hsize]

/-- A value is returned on real successes only, exactly if every accepted response is one: neither
status nor framing nor envelope is checked, and without a `result` the whole message is returned.
No chunked body is a JSON text beside its content. -/
theorem returned_on_success_iff {io : HttpIo} {operation : String} {arguments : Json}
    (hchunks : ∀ body content, Chunked body content →
      wire.fromStr body = none ∨ wire.fromStr content = none) :
    (∀ value, (exchangeHttp wire io identity operation arguments maxBytes).2 = .ok value →
      ∃ raw header body, Received wire io operation arguments maxBytes raw ∧
        headAndBody wire raw = some (header, body) ∧ Succeeds wire header body value) ↔
    ∀ raw header body message, Received wire io operation arguments maxBytes raw →
      headAndBody wire raw = some (header, body) →
      Accepted wire maxBytes header body message →
      isSuccess header ∧ isComplete header body ∧ isReply message ∧
        (message.member "result").isSome := by
  constructor
  · intro h raw header body message hreceived hsplit haccepted
    obtain ⟨raw', header', body', hreceived', hsplit', hsuccess, content, reply, hframed, hparsed,
      hreply, hresult⟩ := h _ (exchangeHttp_eq_ok.mpr ⟨raw, hreceived,
        parseHttpResponse_eq_ok.mpr ⟨header, body, message, hsplit, haccepted, rfl⟩⟩)
    obtain ⟨_, _, _, _, hread⟩ := hreceived
    obtain ⟨_, _, _, _, hread'⟩ := hreceived'
    cases hread.symm.trans hread'
    cases hsplit.symm.trans hsplit'
    cases hframed with
    | plain hcomplete =>
      cases haccepted.parsed.symm.trans hparsed
      exact ⟨hsuccess, hcomplete, hreply, Option.isSome_of_mem hresult⟩
    | chunked _ hchunked =>
      -- the code parses the body with its chunk sizes
      rcases hchunks _ _ hchunked with hnone | hnone
      · cases hnone.symm.trans haccepted.parsed
      · cases hnone.symm.trans hparsed
  · intro h value hvalue
    obtain ⟨raw, hreceived, hvalue⟩ := exchangeHttp_eq_ok.mp hvalue
    obtain ⟨header, body, message, hsplit, haccepted, rfl⟩ := parseHttpResponse_eq_ok.mp hvalue
    obtain ⟨hsuccess, hcomplete, hreply, hresult⟩ :=
      h raw header body message hreceived hsplit haccepted
    obtain ⟨result, hresult⟩ := Option.isSome_iff_exists.mp hresult
    refine ⟨raw, header, body, hreceived, hsplit, hsuccess, body, message, .plain hcomplete,
      haccepted.parsed, hreply, ?_⟩
    rw [hresult, Option.getD_some]

end

def replyMessage : Json :=
  .object [("id", .number (.natural 1)), ("jsonrpc", .string "2.0"), ("result", .bool true)]

def failurePage : Json := .object [("status", .number (.natural 500))]

def localIdentity : HttpIdentity := ⟨"http", "localhost", 80, "/", true⟩

def sentBytes (header : String) (message : Json) : Bytes :=
  Text.utf8 (header.toList ++ "\r\n\r\n".toList ++ Json.render Json.ratioFormat message)

/-- A server that sends a header and a message and closes the connection. -/
def answering (header : String) (message : Json) : HttpIo :=
  ⟨true, true, true, ⟨.done, .done, true⟩, [.data (sentBytes header message), .closed]⟩

/-- A wire that knows one text only, since a chunked body is longer than its content. -/
theorem tableWire_chunks (message : Json) (body content : Text) (h : Chunked body content) :
    (tableWire [message]).fromStr body = none ∨ (tableWire [message]).fromStr content = none := by
  have hlength := h.length_lt
  by_contra hboth
  simp only [tableWire, find?_singleton] at hboth
  grind

def okHeader : String := "HTTP/1.1 200 OK\r\nContent-Length: 38"

/-- The reply of a server that keeps to the protocol. -/
theorem reply_returned :
    ∃ raw header body,
      Received (tableWire [replyMessage]) (answering okHeader replyMessage) "read" .null 4096 raw ∧
        headAndBody (tableWire [replyMessage]) raw = some (header, body) ∧
        Succeeds (tableWire [replyMessage]) header body (.bool true) := by
  have hreturned : (exchangeHttp (tableWire [replyMessage]) (answering okHeader replyMessage)
      localIdentity "read" .null 4096).2 = .ok (.bool true) := by decide +kernel
  refine (returned_on_success_iff (tableWire_chunks _)).mpr ?_ _ hreturned
  intro raw header body message hreceived hsplit haccepted
  obtain ⟨_, _, _, _, hread⟩ := hreceived
  have hraw : readToEnd 4096 [] (answering okHeader replyMessage).arrivals
      = .response (sentBytes okHeader replyMessage) := by decide +kernel
  cases hread.symm.trans hraw
  have hparts : headAndBody (tableWire [replyMessage]) (sentBytes okHeader replyMessage)
      = some (okHeader.toList, Json.render Json.ratioFormat replyMessage) := by decide +kernel
  cases hsplit.symm.trans hparts
  have hparsed : (tableWire [replyMessage]).fromStr (Json.render Json.ratioFormat replyMessage)
      = some replyMessage := by decide +kernel
  cases haccepted.parsed.symm.trans hparsed
  decide +kernel

def errorHeader : String := "HTTP/1.1 500 Error"

/-- The page of a failing server is returned as the result. -/
theorem failure_page_returned :
    (exchangeHttp (tableWire [failurePage]) (answering errorHeader failurePage) localIdentity
      "read" .null 4096).2 = .ok failurePage ∧
    headAndBody (tableWire [failurePage]) (sentBytes errorHeader failurePage)
      = some (errorHeader.toList, Json.render Json.ratioFormat failurePage) ∧
    isSuccess errorHeader.toList = false ∧ isReply failurePage = false := by
  decide +kernel

end Workbench.Mcp
