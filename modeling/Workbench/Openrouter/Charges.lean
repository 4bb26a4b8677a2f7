import Workbench.Openrouter.Certainty

/-!
# Openrouter: charges for completed responses

A response with the completion marker has been paid for.  `prompt_stream` charges it on
one of its exits only: it is read to its end, the cancellation flag is clear and every frame
of the body decodes.  In runs where that is so for each response with the marker, the ledger
total is the saturating sum of all charges.
-/

namespace Workbench.Openrouter

open Library Workbench.Core List

/-- What a response costs. -/
def charge (result : TransportResult) : Nat := max result.usage.costUsdMicros 1

/-- The response stands between the transport and the ledger. -/
def PromptPoint.isUnsettled : PromptPoint → Bool
  | .responded _ | .recording .. => true
  | _ => false

namespace PromptCall

/-- What the response to a call has to be charged for. -/
def due (formats : TextFormats) (call : PromptCall) : Nat :=
  match call.response with
  | some result => if carriesMarker formats result.body then charge result else 0
  | none => 0

/-- What the ledger of a session should hold for a call already. -/
def settled (formats : TextFormats) (sessionId : Nat) (call : PromptCall) : Nat :=
  if call.prompt.sessionId = sessionId ∧ call.point.isUnsettled = false then call.due formats else 0

def KeepsResponse (formats : TextFormats) (call : PromptCall) : Prop :=
  match call.point with
  | .responded result => call.response = some result
  | .recording _ spend => call.due formats = spend
  | .awaitingTransport => call.response = none
  | .entering | .lookingUp | .locking | .checkingActive | .requiringSecret | .checkingBudget
  | .registering | .checkingPending => call.response = none
  | _ => True

/-- A response with the marker is charged: kept, with a clear flag and a body that decodes. -/
def IsCharged (config : AdapterConfig) (answer : Answer) (call : PromptCall) : Prop :=
  match call.point with
  | .awaitingTransport => ∀ result ∈ arrived config.formats config.transport answer.network,
      carriesMarker config.formats result.body →
        (chatCompletion config.formats config.transport answer.network).toBool
  | .responded result => carriesMarker config.formats result.body →
      call.cancel = false ∧ ((decodeBody config.formats result.body).any Except.toBool)
  | _ => True

instance (config : AdapterConfig) (answer : Answer) (call : PromptCall) :
    Decidable (call.IsCharged config answer) := by
  unfold IsCharged
  split <;> infer_instance

/-- A response completes exactly with the marker, a clear flag and a body that decodes. -/
theorem settle_cases (formats : TextFormats) (cancelled : Bool) (result : TransportResult) :
    (∃ outputs, settle formats cancelled result = some (.completes outputs (charge result)) ∧
      carriesMarker formats result.body) ∨
    ((carriesMarker formats result.body → cancelled = false →
        ((decodeBody formats result.body).any Except.toBool) = false) ∧
      ∀ outputs spend, settle formats cancelled result ≠ some (.completes outputs spend)) := by
  unfold settle
  cases cancelled with
  | true => exact .inr ⟨nofun, nofun⟩
  | false =>
    cases hdecode : decodeBody formats result.body with
    | none => exact .inr ⟨fun _ _ => rfl, nofun⟩
    | some decoded =>
      cases decoded with
      | error error => exact .inr ⟨fun _ _ => rfl, nofun⟩
      | ok decoded =>
        obtain ⟨outputs, completed⟩ := decoded
        have hmarker := decodeBody_eq_ok hdecode
        cases completed with
        | true => exact .inl ⟨outputs, rfl, hmarker.symm⟩
        | false =>
          refine .inr ⟨fun hcarries => ?_, fun other spend => ?_⟩
          · rw [← hmarker] at hcarries
            cases hcarries
          · simp only [Option.map_some, true_and, Bool.false_eq_true, if_false]
            split <;> nofun

variable {formats : TextFormats}

theorem settled_of_isUnsettled (call : PromptCall) (sessionId : Nat)
    (h : call.point.isUnsettled) : call.settled formats sessionId = 0 := by
  unfold settled
  rw [if_neg]
  rintro ⟨-, hsettled⟩
  rw [h] at hsettled
  cases hsettled

theorem settled_of_due {call : PromptCall} (sessionId : Nat) (h : call.due formats = 0) :
    call.settled formats sessionId = 0 := by
  unfold settled
  rw [h, ite_self]

/-- Two calls with the same response, both past the ledger or both before it. -/
theorem settled_congr {call call' : PromptCall} (sessionId : Nat)
    (hprompt : call'.prompt = call.prompt) (hresponse : call'.response = call.response)
    (hpoint : call'.point.isUnsettled = call.point.isUnsettled) :
    call'.settled formats sessionId = call.settled formats sessionId := by
  unfold settled due
  rw [hprompt, hresponse, hpoint]

/-- A response that is not charged had nothing to be charged for. -/
theorem IsCharged.due_eq_zero {config : AdapterConfig} {answer : Answer} {call : PromptCall}
    {result : TransportResult} (hcharged : call.IsCharged config answer)
    (hpoint : call.point = .responded result) (hresponse : call.response = some result)
    (hsettle : ∀ outputs spend,
      settle config.formats call.cancel result ≠ some (.completes outputs spend)) :
    call.due config.formats = 0 := by
  rw [IsCharged, hpoint] at hcharged
  obtain ⟨outputs, hcompletes, -⟩ | ⟨hnot, -⟩ := settle_cases config.formats call.cancel result
  · exact absurd hcompletes (hsettle outputs _)
  rw [due, hresponse]
  exact if_neg fun hmarker => by
    obtain ⟨hflag, hdecodes⟩ := hcharged hmarker
    rw [hnot hmarker hflag] at hdecodes
    cases hdecodes

/-- A response that is dropped had nothing to be charged for. -/
theorem IsCharged.dropped {config : AdapterConfig} {answer : Answer} {call call' : PromptCall}
    {error : OpenRouterError} (hcharged : call.IsCharged config answer)
    (hpoint : call.point = .awaitingTransport)
    (herror : chatCompletion config.formats config.transport answer.network = .error error)
    (hresponse : call'.response = arrived config.formats config.transport answer.network) :
    call'.due config.formats = 0 := by
  rw [IsCharged, hpoint, herror] at hcharged
  rw [due, hresponse]
  cases harrived : arrived config.formats config.transport answer.network with
  | none => rfl
  | some result => exact if_neg fun hmarker => by cases hcharged result harrived hmarker

namespace Moved

variable {config : AdapterConfig} {index : Nat} {answer : Answer} {call call' : PromptCall}
  {session session' : LocalSession} {spends spends' : Spends}

theorem keepsResponse (h : Moved config index answer call session spends call' session' spends')
    (hkeeps : call.KeepsResponse config.formats) : call'.KeepsResponse config.formats := by
  unfold KeepsResponse at hkeeps
  cases h with
  | locked hpoint | registered hpoint | dispatched hpoint =>
    rw [hpoint] at hkeeps
    exact hkeeps
  | prepared _ hpoint =>
    obtain ⟨hpoint, rfl⟩ | ⟨hpoint, rfl⟩ | ⟨hpoint, rfl⟩ := hpoint <;> rw [hpoint] at hkeeps <;>
      exact hkeeps
  | answered => rfl
  | completed result hpoint outputs spend hsettle =>
    rw [hpoint] at hkeeps
    show call.due config.formats = spend
    obtain ⟨outputs', hcompletes, hmarker⟩ | ⟨-, hnot⟩ :=
      settle_cases config.formats call.cancel result
    · obtain ⟨-, rfl⟩ := Settlement.completes.inj (Option.some.inj (hcompletes.symm.trans hsettle))
      rw [due, hkeeps]
      exact if_pos hmarker
    · exact absurd hsettle (hnot outputs spend)
  | recorded _ _ _ _ hafter => obtain rfl | rfl := hafter <;> trivial
  | refused | withdrawn | unanswered | panicked | unsuccessful | unrecorded | persisted
  | clearedActive | clearedPending => trivial

/-- A step adds the same amount to the ledger and to what it should hold, or changes neither. -/
theorem settled_cases (h : Moved config index answer call session spends call' session' spends')
    (hkeeps : call.KeepsResponse config.formats) (hcharged : call.IsCharged config answer) :
    (spends' = spends ∧ ∀ sessionId,
      call'.settled config.formats sessionId = call.settled config.formats sessionId) ∨
    ∃ amount,
      (spends' = fun other =>
        if other = call.prompt.sessionId then saturatingAdd (spends other) amount
        else spends other) ∧
      ∀ sessionId, call'.settled config.formats sessionId =
        call.settled config.formats sessionId +
          if sessionId = call.prompt.sessionId then amount else 0 := by
  unfold KeepsResponse at hkeeps
  cases h with
  | locked hpoint | registered hpoint | withdrawn hpoint | dispatched hpoint =>
    exact .inl ⟨rfl, fun sessionId => settled_congr sessionId rfl rfl (by rw [hpoint]; rfl)⟩
  | unanswered hpoint error herror =>
    rw [hpoint] at hkeeps
    refine .inl ⟨rfl, fun sessionId => ?_⟩
    rw [settled_of_due sessionId (by rw [due, hkeeps] : call.due config.formats = 0)]
    exact settled_of_due sessionId (hcharged.dropped hpoint herror rfl)
  | refused _ hpoint =>
    refine .inl ⟨rfl, fun sessionId => settled_congr sessionId rfl rfl ?_⟩
    obtain hpoint | hpoint | hpoint := hpoint <;> rw [hpoint] <;> rfl
  | prepared _ hpoint =>
    refine .inl ⟨rfl, fun sessionId => settled_congr sessionId rfl rfl ?_⟩
    obtain ⟨hpoint, rfl⟩ | ⟨hpoint, rfl⟩ | ⟨hpoint, rfl⟩ := hpoint <;> rw [hpoint] <;> rfl
  | unrecorded _ hpoint | persisted _ hpoint | clearedActive _ hpoint | clearedPending _ hpoint
  | completed _ hpoint =>
    exact .inl ⟨rfl, fun sessionId => settled_congr sessionId rfl rfl (by rw [hpoint]; rfl)⟩
  | answered hpoint =>
    rw [hpoint] at hkeeps
    refine .inl ⟨rfl, fun sessionId => ?_⟩
    rw [settled_of_isUnsettled _ sessionId rfl, settled_of_due sessionId (by rw [due, hkeeps])]
  | panicked _ hpoint hsettle | unsuccessful _ hpoint _ hsettle =>
    rw [hpoint] at hkeeps
    have hdue := hcharged.due_eq_zero hpoint hkeeps (by rw [hsettle]; nofun)
    refine .inl ⟨rfl, fun sessionId => ?_⟩
    rw [settled_of_isUnsettled call sessionId (by rw [hpoint]; rfl)]
    exact settled_of_due sessionId hdue
  | recorded _ spend hpoint point hafter =>
    rw [hpoint] at hkeeps
    refine .inr ⟨spend, rfl, fun sessionId => ?_⟩
    have hsettled : point.isUnsettled = false := by obtain rfl | rfl := hafter <;> rfl
    rw [settled_of_isUnsettled call sessionId (by rw [hpoint]; rfl), Nat.zero_add]
    show (if call.prompt.sessionId = sessionId ∧ point.isUnsettled = false
      then call.due config.formats else 0) = _
    rw [hsettled, hkeeps]
    simp only [and_true, eq_comm]

end Moved

end PromptCall

namespace AdapterState

/-- The amounts that the responses of a session are to be charged for. -/
def charges (formats : TextFormats) (s : AdapterState) (sessionId : Nat) : List Nat :=
  (((s.prompts.filter fun call => call.prompt.sessionId = sessionId).filterMap
    PromptCall.response).filter fun result => carriesMarker formats result.body).map charge

/-- Every response with the marker is charged when it is settled. -/
def ChargesAll (config : AdapterConfig) (s : AdapterState) : AdapterAction → Prop
  | .runPrompt index answer => ∀ call ∈ s.prompts[index]?, call.IsCharged config answer
  | _ => True

instance (config : AdapterConfig) (s : AdapterState) (action : AdapterAction) :
    Decidable (s.ChargesAll config action) := by
  induction action using AdapterAction.casesOn <;> unfold ChargesAll <;> infer_instance

/-- The ledger holds what it started with and what has been settled since. -/
structure Balanced (formats : TextFormats) (start : Spends) (s : AdapterState) : Prop where
  keeps : ∀ (index : Nat) (call : PromptCall), s.prompts[index]? = some call →
    call.KeepsResponse formats
  total : ∀ sessionId, s.spends sessionId =
    min (start sessionId + (s.prompts.map (PromptCall.settled formats sessionId)).sum) u64Max

theorem balanced_connected (formats : TextFormats) {start : Spends}
    (hbounded : ∀ sessionId, start sessionId ≤ u64Max) :
    Balanced formats start (connected start) := by
  refine ⟨nofun, fun sessionId => ?_⟩
  show start sessionId = min (start sessionId + 0) u64Max
  rw [Nat.add_zero, Nat.min_eq_left (hbounded sessionId)]

section

variable {config : AdapterConfig} {start : Spends} {s : AdapterState}

theorem Balanced.saturated (h : Balanced config.formats start s) (sessionId : Nat) :
    s.spends sessionId = saturatingAdd (s.spends sessionId) 0 := by
  rw [h.total, saturatingAdd_min, Nat.add_zero]

/-- A call is replaced, and what it then has settled in addition is added to the ledger. -/
theorem Balanced.replaced (h : Balanced config.formats start s) {index : Nat}
    {call call' : PromptCall} (hcall : s.prompts[index]? = some call)
    (hkeeps : call'.KeepsResponse config.formats) {s' : AdapterState}
    (hsettled : ∀ sessionId, ∃ amount,
      call'.settled config.formats sessionId = call.settled config.formats sessionId + amount ∧
        s'.spends sessionId = saturatingAdd (s.spends sessionId) amount)
    (hprompts : s'.prompts = s.prompts.set index call') : Balanced config.formats start s' := by
  refine ⟨fun place other hother => ?_, fun sessionId => ?_⟩
  · rw [hprompts] at hother
    obtain ⟨-, rfl⟩ | ⟨-, hother⟩ := getElem?_set_cases hother
    · exact hkeeps
    · exact h.keeps place other hother
  · have hsum := sum_map_set (PromptCall.settled config.formats sessionId) hcall call'
    obtain ⟨amount, hadded, hspends⟩ := hsettled sessionId
    rw [hspends, h.total sessionId, saturatingAdd_min, hprompts]
    congr 1
    omega

theorem Balanced.step (h : Balanced config.formats start s) {action : AdapterAction}
    {s' : AdapterState} (hallowed : s.ChargesAll config action)
    (hstep : Stepped config s action s') : Balanced config.formats start s' := by
  cases hstep with
  | startSession | shutDown | clearSessions | cancel | cancelGoesOn | cancelInserts
  | cancelFinds => exact ⟨h.keeps, h.total⟩
  | promptStream =>
    refine ⟨fun place other hother => ?_, fun sessionId => ?_⟩
    · obtain ⟨-, rfl⟩ | hother := getElem?_concat_cases hother
      · rfl
      · exact h.keeps place other hother
    · rw [map_append, sum_append, h.total sessionId]
      simp [PromptCall.settled, PromptCall.due]
  | arrives index _ call hcall hpoint _ hafter =>
    have hkeeps := h.keeps index call hcall
    simp only [mem_cons, not_mem_nil, or_false] at hpoint hafter
    have hresponse : call.response = none := by
      unfold PromptCall.KeepsResponse at hkeeps
      obtain hpoint | hpoint := hpoint <;> rw [hpoint] at hkeeps <;> exact hkeeps
    refine h.replaced hcall ?_ (fun sessionId => ⟨0, ?_, h.saturated sessionId⟩) rfl
    · obtain (rfl | rfl) | ⟨_, rfl⟩ := hafter
      · exact hresponse
      · exact hresponse
      · trivial
    · have hdue : call.due config.formats = 0 := by rw [PromptCall.due, hresponse]
      rw [PromptCall.settled_of_due sessionId hdue]
      exact PromptCall.settled_of_due sessionId hdue
  | cancelStores _ cancel _ flag _ prompt hprompt =>
    have hkeeps : PromptCall.KeepsResponse config.formats { prompt with cancel := true } :=
      h.keeps flag prompt hprompt
    exact h.replaced hprompt hkeeps (fun sessionId => ⟨0, rfl, h.saturated sessionId⟩) rfl
  | moves index _ call hcall _ _ _ _ _ hmoved =>
    have hkeeps := h.keeps index call hcall
    refine h.replaced hcall (hmoved.keepsResponse hkeeps) (fun sessionId => ?_) rfl
    obtain ⟨rfl, hsame⟩ | ⟨amount, rfl, hadded⟩ :=
      hmoved.settled_cases hkeeps (hallowed call hcall)
    · exact ⟨0, hsame sessionId, h.saturated sessionId⟩
    · have hadded := hadded sessionId
      split at hadded
      · next heq => exact ⟨amount, hadded, if_pos heq⟩
      · next hne => exact ⟨0, hadded, (if_neg hne).trans (h.saturated sessionId)⟩

end

/-- Amounts added one after the other to a total saturate as their sum does. -/
theorem foldl_saturatingAdd (amounts : List Nat) (total : Nat) :
    amounts.foldl saturatingAdd (min total u64Max) = min (total + amounts.sum) u64Max := by
  induction amounts generalizing total with
  | nil => rfl
  | cons amount rest ih =>
    rw [foldl_cons, saturatingAdd_min, ih, sum_cons, Nat.add_assoc]

/-- Once no response is between transport and ledger, the settled amounts are all charges. -/
theorem sum_settled (formats : TextFormats) (prompts : List PromptCall) (sessionId : Nat)
    (h : ∀ call ∈ prompts, call.prompt.sessionId = sessionId → call.point.isUnsettled = false) :
    (prompts.map (PromptCall.settled formats sessionId)).sum =
      ((((prompts.filter fun call => call.prompt.sessionId = sessionId).filterMap
        PromptCall.response).filter fun result => carriesMarker formats result.body).map
          charge).sum := by
  induction prompts with
  | nil => rfl
  | cons call rest ih =>
    rw [map_cons, sum_cons, ih fun other hother => h other (mem_cons_of_mem _ hother)]
    by_cases hsession : call.prompt.sessionId = sessionId
    · rw [filter_cons_of_pos (by simpa using hsession), PromptCall.settled,
        if_pos ⟨hsession, h call mem_cons_self hsession⟩, PromptCall.due]
      cases hresponse : call.response with
      | none => rw [filterMap_cons_none hresponse, Nat.zero_add]
      | some result =>
        rw [filterMap_cons_some hresponse, filter_cons]
        by_cases hmarker : carriesMarker formats result.body = true
        · simp only [hmarker, if_true, map_cons, sum_cons]
        · simp only [hmarker, if_false, Bool.false_eq_true, Nat.zero_add]
    · rw [filter_cons_of_neg (by simpa using hsession), PromptCall.settled,
        if_neg fun hboth => hsession hboth.1, Nat.zero_add]

/-- The world answers well, with a response that reports this usage. -/
def usageAnswered (usage : Json) : Answer :=
  { wellAnswered with network := ⟨.stream [] usage, .connectFailed⟩ }

/-- A response whose first frame is not JSON but that goes on to its marker. -/
def garbledAnswer : Answer :=
  { wellAnswered with network := ⟨.stream ["garbled"] (.object []), .connectFailed⟩ }

def liveConfig : AdapterConfig := { offlineConfig with transport := ⟨false, "https://host"⟩ }

/-- A response that breaks off behind its marker. -/
def brokenOff : Answer :=
  { wellAnswered with
    network := ⟨.transportError, .readFailed (Text.utf8 "\r\n\r\ndata: [DONE]\n\n".toList)⟩ }

end AdapterState

end Workbench.Openrouter
