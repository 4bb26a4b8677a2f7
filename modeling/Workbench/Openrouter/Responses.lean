import Workbench.Openrouter.Adapter

/-!
# Openrouter: what a response is read as

The usage of a streamed completion is charged from the frames of its body.
`extract_usage_from_sse` stops at the first frame that has a `usage` member, whatever the
member holds, while a stream that reports usage does so in its last frames.
-/

namespace Workbench.Openrouter

open Library Workbench.Core List

/-! ## Usage -/

/-- The frame has a `usage` member, be it null. -/
def mentionsUsage (frame : Json) : Bool := (frame.member "usage").isSome

/-- The frame carries a usage object. -/
def reportsUsage (frame : Json) : Bool :=
  match frame.member "usage" with
  | some (.object _) => true
  | _ => false

/-- The frame that a payload holds, unless it is the completion marker or no JSON. -/
def payloadFrame (formats : TextFormats) (payload : Text) : Option Json :=
  if isDone payload then none else formats.fromStr (Text.trim payload)

def bodyFrames (formats : TextFormats) (body : Bytes) : List Json :=
  match splitSseData formats body with
  | .ok payloads => payloads.filterMap (payloadFrame formats)
  | .error _ => []

variable {formats : TextFormats} {frame : Json}

theorem mentionsUsage_of_reportsUsage (h : reportsUsage frame) :
    mentionsUsage frame := by
  unfold reportsUsage at h
  unfold mentionsUsage
  cases hmember : frame.member "usage" with
  | none =>
    rw [hmember] at h
    cases h
  | some value => rfl

/-- The loop ends at the first frame that mentions usage. -/
theorem usageOfPayloads_eq (payloads : List Text) :
    usageOfPayloads formats payloads = (((payloads.filterMap (payloadFrame formats)).find?
      mentionsUsage).map (extractUsage formats)).getD {} := by
  induction payloads with
  | nil => rfl
  | cons payload rest ih =>
    rw [usageOfPayloads]
    by_cases hdone : isDone payload = true
    · rw [if_pos hdone, ih, filterMap_cons_none (by simp [payloadFrame, hdone])]
    rw [if_neg hdone]
    cases hparsed : formats.fromStr (Text.trim payload) with
    | none => rw [filterMap_cons_none (by simp [payloadFrame, hdone, hparsed]), ← ih]
    | some frame =>
      rw [filterMap_cons_some (by simp [payloadFrame, hdone, hparsed] : _ = some frame)]
      cases husage : mentionsUsage frame with
      | true => simp [husage, show (frame.member "usage").isSome = true from husage]
      | false =>
        have hnone : frame.member "usage" = none := by simpa [mentionsUsage] using husage
        simp [husage, extractUsage, hnone, ih]

theorem extractUsageFromSse_eq (body : Bytes) :
    extractUsageFromSse formats body
      = (((bodyFrames formats body).find? mentionsUsage).map (extractUsage formats)).getD {} := by
  unfold extractUsageFromSse bodyFrames
  cases splitSseData formats body with
  | ok payloads => exact usageOfPayloads_eq payloads
  | error error => rfl

/-- The last usage report is charged exactly if the first frame with any usage gives the same. -/
theorem charged_for_last_report_iff {baseUrl : String} {exchange : Exchange}
    {result : TransportResult} {last : Json}
    (hresult : liveChatCompletion formats baseUrl exchange = .ok result)
    (hlast : ((bodyFrames formats result.body).filter reportsUsage).getLast? = some last) :
    result.usage = extractUsage formats last ↔
      ∀ first, (bodyFrames formats result.body).find? mentionsUsage = some first →
        extractUsage formats first = extractUsage formats last := by
  have husage : result.usage = extractUsageFromSse formats result.body := by
    obtain ⟨_, _, h⟩ := bind_eq_ok hresult
    obtain ⟨_, _, h⟩ := bind_eq_ok h
    obtain ⟨body, _, h⟩ := bind_eq_ok h
    obtain ⟨_, h⟩ := ok_of_guard h
    cases h
    rfl
  rw [husage, extractUsageFromSse_eq]
  obtain ⟨hmem, hreports⟩ := mem_filter.mp (mem_of_getLast? hlast)
  cases hfirst : (bodyFrames formats result.body).find? mentionsUsage with
  | none =>
    have hsilent := find?_eq_none.mp hfirst last hmem
    exact absurd (mentionsUsage_of_reportsUsage hreports) hsilent
  | some first => simp

def nullUsage : String := "\x7b\"choices\":[],\"usage\":null\x7d"

def millionTokens : String := "\x7b\"choices\":[],\"usage\":\x7b\"prompt_tokens\":1000000\x7d\x7d"

def tokenReport : Json :=
  .object [("choices", .array []), ("usage", .object [("prompt_tokens", .ofU64 1000000)])]

/-- ASCII, and the JSON of these two frames. -/
def frameFormats : TextFormats where
  fromUtf8 bytes := some (bytes.map fun byte => Char.ofNat byte.toNat)
  fromStr text :=
    if text = nullUsage.toList then some (.object [("choices", .array []), ("usage", .null)])
    else if text = millionTokens.toList then some tokenReport
    else none
  f64ToUsdMicros _ := 0

/-- A completed stream of these frames. -/
def streamBody (frames : List String) : Bytes := Text.utf8 (eventBlocks (frames ++ ["[DONE]"]))

def streamed (frames : List String) : Exchange :=
  .received (Text.utf8 "HTTP/1.1 200 OK\r\n\r\n".toList ++ streamBody frames)

/-- The report is the only frame that mentions usage. -/
theorem report_alone_charged :
    ∃ result, liveChatCompletion frameFormats "https://host" (streamed [millionTokens])
        = .ok result ∧ result.usage = extractUsage frameFormats tokenReport := by
  have hresult : liveChatCompletion frameFormats "https://host" (streamed [millionTokens])
      = .ok ⟨streamBody [millionTokens], ⟨1000000, 0, 500000⟩⟩ := by decide +kernel
  have hlast : ((bodyFrames frameFormats (streamBody [millionTokens])).filter
      reportsUsage).getLast? = some tokenReport := by decide +kernel
  have hfirst : (bodyFrames frameFormats (streamBody [millionTokens])).find? mentionsUsage
      = some tokenReport := by decide +kernel
  refine ⟨_, hresult, (charged_for_last_report_iff hresult hlast).mpr fun first h => ?_⟩
  rw [Option.some.inj (h.symm.trans hfirst)]

/-- After a frame with a null usage, half a dollar is charged as one micro-dollar. -/
theorem null_usage_charged :
    liveChatCompletion frameFormats "https://host" (streamed [nullUsage, millionTokens])
      = .ok ⟨streamBody [nullUsage, millionTokens], ⟨0, 0, 1⟩⟩ ∧
    settle frameFormats false ⟨streamBody [nullUsage, millionTokens], ⟨0, 0, 1⟩⟩
      = some (.completes [] 1) ∧
    ((bodyFrames frameFormats (streamBody [nullUsage, millionTokens])).filter
      reportsUsage).getLast? = some tokenReport ∧
    extractUsage frameFormats tokenReport = ⟨1000000, 0, 500000⟩ := by
  decide +kernel

end Workbench.Openrouter
