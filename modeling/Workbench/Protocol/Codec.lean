import Workbench.Library.Framing
import Workbench.Library.Json

/-!
# Protocol: newline-delimited JSON frames

The codec of the local client protocol.  What prints and parses JSON text is a parameter:
`parse` gives the tree of a text with the members of its objects in the order they were
written and repeated keys kept, and `strictValue` is the visitor that refuses the repeated
ones.  (The source runs both at once, so a text with a repeated key and a later syntax
error has there the message of the former.)
-/

namespace Workbench.Protocol

open Library List

/-- The protocol major that is spoken. -/
def protocolV1 : String := "workbench/1"

/-- The longest frame: 8 MiB. -/
def maxFrameBytes : Nat := 8388608

/-- The newline byte. -/
def newline : UInt8 := 10

/-- What the codec reports. -/
inductive ProtocolCodecError where
  | frameTooLarge
  | unsupportedVersion
  | incompleteFrame
  | invalidJson (message : String)

/-- A printer and parser of JSON text, and what decoders say of a value that they refuse. -/
structure SerdeJson where
  print : Json → List UInt8
  parse : List UInt8 → Except String Json
  mismatch : Json → String
  /-- An assumption on values of every depth and on every number. -/
  parse_print : ∀ value, parse (print value) = .ok value
  print_ne_nil : ∀ value, print value ≠ []
  newline_not_mem_print : ∀ value, newline ∉ print value

/-! ## Values without duplicate object keys -/

mutual

/-- Rebuilds a value, with objects as maps, unless a key is repeated. -/
def strictValue : Json → Except String Json
  | .null => .ok .null
  | .bool b => .ok (.bool b)
  | .number n => .ok (.number n)
  | .string s => .ok (.string s)
  | .array items => do
    let values ← strictItems items
    return .array values
  | .object members => do
    let values ← strictMembers [] members
    return .object values
  termination_by structural value => value

def strictItems : List Json → Except String (List Json)
  | [] => .ok []
  | item :: rest => do
    let value ← strictValue item
    let values ← strictItems rest
    return value :: values
  termination_by structural items => items

/-- Adds the members to those already read. -/
def strictMembers (values : List (String × Json)) :
    List (String × Json) → Except String (List (String × Json))
  | [] => .ok values
  | (key, item) :: rest =>
    if values.any fun entry => entry.1 == key then
      .error ("duplicate JSON key: " ++ key)
    else do
      let value ← strictValue item
      strictMembers (Json.insertMember key value values) rest
  termination_by structural members => members

end

/-! ## The codec -/

section

variable {Inbound Outbound : Type} (serde : SerdeJson) (fromValue : Json → Except String Inbound)
  (toValue : Outbound → Except String Json)

/-- A message of another protocol major. -/
def hasOtherProtocol (value : Json) : Bool :=
  match value.member "protocol" with
  | some (.string protocol) => protocol != protocolV1
  | _ => false

/-- Reads the message of one frame. -/
def decodeFrame (frame : List UInt8) : Except ProtocolCodecError Inbound := do
  if frame = [] then throw (.invalidJson "empty protocol frame")
  let tree ← (serde.parse frame).mapError .invalidJson
  let strict ← (strictValue tree).mapError .invalidJson
  if hasOtherProtocol strict then throw .unsupportedVersion
  (fromValue strict).mapError .invalidJson

/-- Takes the next frame from the buffer. -/
def decode (source : List UInt8) : Except ProtocolCodecError (Option Inbound) × List UInt8 :=
  match source.findIdx? (· == newline) with
  | none =>
    if maxFrameBytes < source.length then (.error .frameTooLarge, [])
    else (.ok none, source)
  | some position =>
    if maxFrameBytes < position then (.error .frameTooLarge, source.drop (position + 1))
    else ((decodeFrame serde fromValue (source.take position)).map some, source.drop (position + 1))

/-- What the end of the input leaves. -/
def decodeEof (source : List UInt8) : Except ProtocolCodecError (Option Inbound) × List UInt8 :=
  if source = [] then (.ok none, [])
  else if maxFrameBytes < source.length then (.error .frameTooLarge, [])
  else (.error .incompleteFrame, [])

/-- Appends the frame of a message. -/
def encode (item : Outbound) (destination : List UInt8) :
    Except ProtocolCodecError (List UInt8) := do
  let tree ← (toValue item).mapError .invalidJson
  let encoded := serde.print tree
  if maxFrameBytes < encoded.length then throw .frameTooLarge
  return destination ++ encoded ++ [newline]

/-- The decoding half of the codec, as its reader sees it. -/
def ndjsonCodec : Decoder UInt8 ProtocolCodecError Inbound where
  decode := decode serde fromValue
  decodeEof := decodeEof

end

/-! ## What a whole stream means -/

/-- The frames before each newline, and what follows the last newline. -/
def frames : List UInt8 → List (List UInt8) × List UInt8
  | [] => ([], [])
  | byte :: rest =>
    if byte = newline then ([] :: (frames rest).1, (frames rest).2)
    else
      match frames rest with
      | ([], tail) => ([], byte :: tail)
      | (first :: later, tail) => ((byte :: first) :: later, tail)

section

variable {Inbound : Type} (serde : SerdeJson) (fromValue : Json → Except String Inbound)

/-- What a frame before a newline is decoded to. -/
def frameItem (frame : List UInt8) : Except ProtocolCodecError Inbound :=
  if maxFrameBytes < frame.length then .error .frameTooLarge
  else decodeFrame serde fromValue frame

/-- What is reported of the input after the last newline. -/
def tailItems (tail : List UInt8) : List (Except ProtocolCodecError Inbound) :=
  if tail = [] then []
  else if maxFrameBytes < tail.length then [.error .frameTooLarge]
  else [.error .incompleteFrame]

/-- The items of the frames and of the rest, up to the first error. -/
def itemsOf : List (List UInt8) → List UInt8 → List (Except ProtocolCodecError Inbound)
  | [], tail => tailItems tail
  | frame :: later, tail =>
    match frameItem serde fromValue frame with
    | .ok item => .ok item :: itemsOf later tail
    | .error failure => [.error failure]

/-- What a whole stream means, up to the first error. -/
def streamItems (input : List UInt8) : List (Except ProtocolCodecError Inbound) :=
  itemsOf serde fromValue (frames input).1 (frames input).2

end

theorem frames_append_newline {frame : List UInt8} (h : newline ∉ frame) (rest : List UInt8) :
    frames (frame ++ newline :: rest) = (frame :: (frames rest).1, (frames rest).2) := by
  induction frame with
  | nil => simp [frames]
  | cons byte frame ih =>
    rw [mem_cons, not_or] at h
    obtain ⟨hbyte, hframe⟩ := h
    rw [cons_append, frames, if_neg (Ne.symm hbyte), ih hframe]

theorem frames_of_not_mem {tail : List UInt8} (h : newline ∉ tail) : frames tail = ([], tail) := by
  induction tail with
  | nil => rfl
  | cons byte tail ih =>
    rw [mem_cons, not_or] at h
    obtain ⟨hbyte, htail⟩ := h
    rw [frames, if_neg (Ne.symm hbyte), ih htail]

/-- Bytes without a newline only make the first frame, or the rest, longer. -/
theorem frames_append_of_not_mem {start : List UInt8} (h : newline ∉ start) (more : List UInt8) :
    frames (start ++ more) = match frames more with
      | ([], tail) => ([], start ++ tail)
      | (first :: later, tail) => ((start ++ first) :: later, tail) := by
  induction start with
  | nil => cases hmore : frames more with | mk first tail => cases first <;> simp [hmore]
  | cons byte start ih =>
    rw [mem_cons, not_or] at h
    obtain ⟨hbyte, hstart⟩ := h
    rw [cons_append, frames, if_neg (Ne.symm hbyte), ih hstart]
    cases frames more with
    | mk first => cases first <;> rfl

/-- Where the first newline stands. -/
theorem split_at_newline {source : List UInt8} {position : Nat}
    (h : source.findIdx? (· == newline) = some position) :
    newline ∉ source.take position ∧ position < source.length
      ∧ source = source.take position ++ newline :: source.drop (position + 1) := by
  obtain ⟨hlt, hbyte, hbefore⟩ := findIdx?_eq_some_iff_getElem.mp h
  refine ⟨fun hmem => ?_, hlt, ?_⟩
  · obtain ⟨index, hindex, heq⟩ := mem_iff_getElem.mp hmem
    have hearlier : index < position := by
      have := length_take_le position source
      omega
    have hne := hbefore index hearlier
    rw [getElem_take] at heq
    simp [heq] at hne
  · have hget : source[position] = newline := by simpa using hbyte
    rw [← hget, ← drop_eq_getElem_cons hlt, take_append_drop]

section

variable {Inbound : Type} {serde : SerdeJson} {fromValue : Json → Except String Inbound}

theorem streamItems_newline {frame : List UInt8} (h : newline ∉ frame) (rest : List UInt8) :
    streamItems serde fromValue (frame ++ newline :: rest)
      = match frameItem serde fromValue frame with
        | .ok item => .ok item :: streamItems serde fromValue rest
        | .error failure => [.error failure] := by
  rw [streamItems, frames_append_newline h]
  rfl

/-- Too much input without a newline is too much, whatever follows. -/
theorem streamItems_too_large {start : List UInt8} (h : newline ∉ start)
    (hlarge : maxFrameBytes < start.length) (more : List UInt8) :
    streamItems serde fromValue (start ++ more) = [.error .frameTooLarge] := by
  have hlonger : ∀ other, maxFrameBytes < (start ++ other).length := by
    intro other
    rw [length_append]
    omega
  rw [streamItems, frames_append_of_not_mem h]
  cases frames more with
  | mk first tail =>
    cases first with
    | nil =>
      have hne : start ++ tail ≠ [] := by
        intro hnil
        have := hlonger tail
        rw [hnil] at this
        exact absurd this (Nat.not_lt_zero _)
      simp only [itemsOf, tailItems, if_neg hne, if_pos (hlonger tail)]
    | cons first later => simp only [itemsOf, frameItem, if_pos (hlonger first)]

variable (serde fromValue) in
/-- The three ways in which `decode` goes. -/
theorem decode_cases (source : List UInt8) :
    (newline ∉ source ∧ maxFrameBytes < source.length
        ∧ decode serde fromValue source = (.error .frameTooLarge, []))
      ∨ (newline ∉ source ∧ source.length ≤ maxFrameBytes
        ∧ decode serde fromValue source = (.ok none, source))
      ∨ ∃ frame rest, newline ∉ frame ∧ source = frame ++ newline :: rest
        ∧ decode serde fromValue source = ((frameItem serde fromValue frame).map some, rest) := by
  unfold decode
  cases hposition : source.findIdx? (· == newline) with
  | none =>
    have hmem : newline ∉ source := fun hmem => by
      simpa using findIdx?_eq_none_iff.mp hposition newline hmem
    by_cases hlarge : maxFrameBytes < source.length
    · exact .inl ⟨hmem, hlarge, if_pos hlarge⟩
    · exact .inr (.inl ⟨hmem, Nat.le_of_not_lt hlarge, if_neg hlarge⟩)
  | some position =>
    obtain ⟨hmem, hlt, hsplit⟩ := split_at_newline hposition
    refine .inr (.inr ⟨source.take position, source.drop (position + 1), hmem, hsplit, ?_⟩)
    have hlength : (source.take position).length = position := by
      rw [length_take]
      omega
    simp only [frameItem, hlength]
    by_cases hlarge : maxFrameBytes < position
    · rw [if_pos hlarge, if_pos hlarge]; rfl
    · rw [if_neg hlarge, if_neg hlarge]

variable {source rest : List UInt8}

theorem decode_waits (h : decode serde fromValue source = (.ok none, rest)) :
    rest = source ∧ newline ∉ source ∧ source.length ≤ maxFrameBytes := by
  rcases decode_cases serde fromValue source with
    ⟨-, -, hdecode⟩ | ⟨hmem, hsmall, hdecode⟩ | ⟨frame, later, -, -, hdecode⟩
  · rw [hdecode] at h; cases h
  · rw [hdecode] at h; cases h; exact ⟨rfl, hmem, hsmall⟩
  · rw [hdecode] at h
    cases hitem : frameItem serde fromValue frame with
    | ok item | error failure => rw [hitem] at h; cases h

theorem decode_yields {item : Inbound}
    (h : decode serde fromValue source = (.ok (some item), rest)) :
    ∃ frame, newline ∉ frame ∧ source = frame ++ newline :: rest
      ∧ frameItem serde fromValue frame = .ok item := by
  rcases decode_cases serde fromValue source with
    ⟨-, -, hdecode⟩ | ⟨-, -, hdecode⟩ | ⟨frame, later, hmem, hsource, hdecode⟩
  · rw [hdecode] at h; cases h
  · rw [hdecode] at h; cases h
  · rw [hdecode] at h
    cases hitem : frameItem serde fromValue frame with
    | ok item => rw [hitem] at h; cases h; exact ⟨frame, hmem, hsource, hitem⟩
    | error failure => rw [hitem] at h; cases h

/-- An error of `decode` is what the input means, whatever follows. -/
theorem decode_fails {failure : ProtocolCodecError}
    (h : decode serde fromValue source = (.error failure, rest)) (more : List UInt8) :
    streamItems serde fromValue (source ++ more) = [.error failure] := by
  rcases decode_cases serde fromValue source with
    ⟨hmem, hlarge, hdecode⟩ | ⟨-, -, hdecode⟩ | ⟨frame, later, hmem, hsource, hdecode⟩
  · rw [hdecode] at h
    cases h
    exact streamItems_too_large hmem hlarge more
  · rw [hdecode] at h; cases h
  rw [hdecode] at h
  cases hitem : frameItem serde fromValue frame with
  | ok item => rw [hitem] at h; cases h
  | error failure =>
    rw [hitem] at h
    cases h
    rw [hsource, append_assoc, cons_append, streamItems_newline hmem, hitem]

theorem drainEof_eq_tailItems (source : List UInt8) :
    (ndjsonCodec serde fromValue).drainEof source = tailItems source := by
  have hdecode : (ndjsonCodec serde fromValue).decodeEof = decodeEof := rfl
  rw [Decoder.drainEof, Decoder.repeatDecode, hdecode, tailItems]
  by_cases hempty : source = []
  · simp [decodeEof, hempty]
  · by_cases hlarge : maxFrameBytes < source.length <;> simp [decodeEof, hempty, hlarge]

theorem ndjsonCodec_meets : (ndjsonCodec serde fromValue).Meets (streamItems serde fromValue) where
  starts := rfl
  waits h := (decode_waits h).1
  shrinks h := by
    obtain ⟨frame, -, hsource, -⟩ := decode_yields h
    rw [hsource, length_append, length_cons]
    omega
  yields h more := by
    obtain ⟨frame, hmem, hsource, hitem⟩ := decode_yields h
    rw [hsource, append_assoc, cons_append, streamItems_newline hmem, hitem]
  fails := decode_fails
  ends h := by
    rw [drainEof_eq_tailItems, streamItems, frames_of_not_mem (decode_waits h).2.1]
    rfl

theorem decodeFrame_ne_frameTooLarge (frame : List UInt8) :
    decodeFrame serde fromValue frame ≠ .error .frameTooLarge := by
  unfold decodeFrame
  by_cases hempty : frame = []
  · simp [hempty, bind, Except.bind, throw, throwThe, MonadExceptOf.throw]
  cases serde.parse frame with
  | error message => simp [hempty, bind, Except.bind, Except.mapError]
  | ok tree =>
    cases hstrict : strictValue tree with
    | error message => simp [hempty, bind, Except.bind, Except.mapError, hstrict]
    | ok strict =>
      cases hother : hasOtherProtocol strict with
      | true =>
        simp [hempty, bind, Except.bind, Except.mapError, hstrict, hother, throw,
          throwThe, MonadExceptOf.throw]
      | false =>
        cases hvalue : fromValue strict <;>
          simp [hempty, bind, Except.bind, Except.mapError, hstrict, hother, hvalue]

theorem frameItem_eq_frameTooLarge {frame : List UInt8} :
    frameItem serde fromValue frame = .error .frameTooLarge ↔ maxFrameBytes < frame.length := by
  unfold frameItem
  split
  · next hlarge => simp [hlarge]
  · next hsmall => simp [hsmall, decodeFrame_ne_frameTooLarge]

theorem frameTooLarge_mem_tailItems {tail : List UInt8} :
    (.error .frameTooLarge : Except ProtocolCodecError Inbound) ∈ tailItems tail
      ↔ maxFrameBytes < tail.length := by
  unfold tailItems
  split
  · next hempty => simp [hempty]
  · split
    · next hlarge => simp [hlarge]
    · next hsmall => simp [hsmall]

/-- `frameTooLarge` is reported exactly when the first part not decodable is too long. -/
theorem frameTooLarge_mem_itemsOf {later : List (List UInt8)} {tail : List UInt8} :
    .error .frameTooLarge ∈ itemsOf serde fromValue later tail
      ↔ ∃ before piece after, later ++ [tail] = before ++ piece :: after
        ∧ (∀ frame ∈ before, ∃ item, frameItem serde fromValue frame = .ok item)
        ∧ maxFrameBytes < piece.length := by
  induction later with
  | nil =>
    rw [itemsOf, frameTooLarge_mem_tailItems]
    refine ⟨fun hlarge => ⟨[], tail, [], rfl, by simp, hlarge⟩, ?_⟩
    rintro ⟨before, piece, after, hsplit, -, hlarge⟩
    cases before with
    | nil => cases hsplit; exact hlarge
    | cons first before => simp at hsplit
  | cons frame later ih =>
    rw [itemsOf]
    cases hitem : frameItem serde fromValue frame with
    | ok item =>
      simp only [mem_cons, reduceCtorEq, false_or, ih]
      constructor
      · rintro ⟨before, piece, after, hsplit, hbefore, hlarge⟩
        refine ⟨frame :: before, piece, after, by rw [cons_append, hsplit]; rfl, ?_, hlarge⟩
        intro other hmem
        rcases mem_cons.mp hmem with rfl | hmem
        · exact ⟨item, hitem⟩
        · exact hbefore other hmem
      · rintro ⟨before, piece, after, hsplit, hbefore, hlarge⟩
        cases before with
        | nil =>
          -- A frame that is decoded is not too long.
          cases hsplit
          rw [frameItem_eq_frameTooLarge.mpr hlarge] at hitem
          cases hitem
        | cons first before =>
          exact ⟨before, piece, after, (cons.inj hsplit).2,
            fun other hmem => hbefore other (mem_cons_of_mem _ hmem), hlarge⟩
    | error failure =>
      simp only [mem_singleton, Except.error.injEq]
      constructor
      · rintro rfl
        exact ⟨[], frame, later ++ [tail], rfl, by simp, frameItem_eq_frameTooLarge.mp hitem⟩
      rintro ⟨before, piece, after, hsplit, hbefore, hlarge⟩
      cases before with
      | nil =>
        cases hsplit
        rw [frameItem_eq_frameTooLarge.mpr hlarge] at hitem
        cases hitem
        rfl
      | cons first before =>
        obtain ⟨item, hok⟩ := hbefore first mem_cons_self
        rw [← (cons.inj hsplit).1, hitem] at hok
        cases hok

/-- However a stream is split into reads, the reader yields the same items up to the first error,
reports a frame as too large exactly when more than 8 MiB precede its newline or the end of the
input, and keeps at most 8 MiB when it asks for more. -/
theorem framing_ignores_chunks (serde : SerdeJson) (fromValue : Json → Except String Inbound)
    (chunks : List (List UInt8)) :
    (ndjsonCodec serde fromValue).readAll chunks []
        = streamItems serde fromValue chunks.flatten
      ∧ (.error .frameTooLarge ∈ (ndjsonCodec serde fromValue).readAll chunks []
        ↔ ∃ before piece after,
          (frames chunks.flatten).1 ++ [(frames chunks.flatten).2] = before ++ piece :: after
            ∧ (∀ frame ∈ before, ∃ item, frameItem serde fromValue frame = .ok item)
            ∧ maxFrameBytes < piece.length)
      ∧ ∀ kept, (ndjsonCodec serde fromValue).keptAfter chunks [] = some kept →
        kept.length ≤ maxFrameBytes := by
  have hmeets : (ndjsonCodec serde fromValue).Meets (streamItems serde fromValue) :=
    ndjsonCodec_meets
  refine ⟨hmeets.readAll_eq chunks, ?_, fun kept hkept => ?_⟩
  · rw [hmeets.readAll_eq chunks]
    exact frameTooLarge_mem_itemsOf
  · exact (decode_waits (hmeets.decode_keptAfter hmeets.starts hkept)).2.2

end

end Workbench.Protocol
