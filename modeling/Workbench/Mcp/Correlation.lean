import Workbench.Library.Transition
import Workbench.Mcp.Uncertainty

/-!
# Mcp: which call a response answers

The calls on one pooled child share one stream of bytes.  A call takes the first line that
the stream holds, whatever its id, so a late response is given to the next call.  As long as
the bytes that arrive during a call belong to the response of that call, every call that
returns a result returns its own: the reader is empty between calls (`quiet_between_calls`).
-/

namespace Workbench.Mcp

open Library List

/-- One invocation: what is asked, and what the child does. -/
structure ChildCall where
  operation : String
  arguments : Json
  io : PipeIo

/-- A pooled child and the calls made on it. -/
structure ChildRun where
  child : StdioChild
  exchanges : List Exchange

/-- The next call on a child. -/
def ChildRun.step (wire : Wire) (run : ChildRun) (call : ChildCall) : Option ChildRun :=
  let (exchange, child) := run.child.exchange wire call.io call.operation call.arguments
    defaultMaxFrameBytes
  some ⟨child, run.exchanges ++ [exchange]⟩

/-- A child that was just spawned. -/
def ChildRun.fresh (serverId workspaceKey : String) : ChildRun :=
  ⟨⟨serverId, workspaceKey, [], 1⟩, []⟩

/-- A line is the response that carries an id. -/
def Carries (wire : Wire) (id : UInt64) (line : Bytes) (response : Json) : Prop :=
  ∃ text, wire.fromUtf8 line = some text ∧ wire.fromStr text.trimEnd = some response ∧
    response.member "id" = some (.number (.natural id))

/-- A call that returned a result returned the one of the response that carries its id. -/
def Exchange.AnswersOwn (wire : Wire) (exchange : Exchange) : Prop :=
  ∀ value, exchange.result = .ok value →
    ∃ line response, exchange.read = some (.line line) ∧ Carries wire exchange.id line response ∧
      value = (response.member "result").getD .null

/-- Only the line that answers the call, or its beginning, arrives, and no end of the stream. -/
def OnlyOwnResponse (wire : Wire) (run : ChildRun) (call : ChildCall) : Prop :=
  ∃ body, lineFeed ∉ body ∧ delivered call.io.arrivals <+: body ++ [lineFeed] ∧
    (∃ response, Carries wire run.child.nextId (body ++ [lineFeed]) response) ∧
    (closes call.io.arrivals →
      delivered call.io.arrivals = body ++ [lineFeed] ∨ delivered call.io.arrivals = [])

/-! ## One call -/

/-- A part of a line that ends with a line feed is the whole line. -/
theorem eq_of_append_lineFeed {body part rest : Bytes} (hbody : lineFeed ∉ body)
    (h : part ++ lineFeed :: rest <+: body ++ [lineFeed]) : part = body ∧ rest = [] := by
  obtain ⟨more, hmore⟩ := h
  rw [append_assoc, cons_append] at hmore
  obtain ⟨hpart, _, htail⟩ :=
    (append_cons_inj_of_notMem hbody not_mem_nil).mp hmore.symm
  exact ⟨hpart.symm, (append_eq_nil_iff.mp htail.symm).1⟩

/-- The line that an empty reader takes from a stream that only holds a response. -/
theorem readLine_own {arrivals : List Arrival} {body line rest : Bytes} (hbody : lineFeed ∉ body)
    (honly : delivered arrivals <+: body ++ [lineFeed])
    (hwhole : closes arrivals →
      delivered arrivals = body ++ [lineFeed] ∨ delivered arrivals = [])
    (h : readLine [] [] arrivals = (.line line, rest)) :
    (line = body ++ [lineFeed] ∨ line = []) ∧ rest = [] := by
  obtain ⟨hfirst, hprefix⟩ := readLine_line not_mem_nil h
  rcases hfirst with ⟨part, _, _, _, hline⟩ | ⟨hclosed, hfree, hline⟩
  · have hstream := hprefix.trans honly
    rw [hline, append_assoc] at hstream
    obtain ⟨rfl, hempty⟩ := eq_of_append_lineFeed hbody hstream
    exact ⟨.inl hline, hempty⟩
  · rcases hwhole hclosed with hall | hnone
    · rw [hall] at hfree
      exact absurd (mem_append_right body mem_cons_self) hfree
    · rw [hnone] at hline hprefix
      rw [hline] at hprefix
      exact ⟨.inr hline, prefix_nil.mp hprefix⟩

variable {wire : Wire}

/-- What a line is worth when a call returns it. -/
theorem lineResult_eq_ok {maxFrameBytes : Nat} {line : Bytes} {value : Json}
    (h : StdioChild.lineResult wire maxFrameBytes line = .ok value) :
    line ≠ [] ∧ ∃ text response, wire.fromUtf8 line = some text ∧
      wire.fromStr text.trimEnd = some response ∧
      value = (response.member "result").getD .null := by
  unfold StdioChild.lineResult at h
  split at h
  · cases h
  next text htext =>
  obtain ⟨hline, h⟩ := ok_of_guard h
  obtain ⟨-, h⟩ := ok_of_guard h
  split at h
  · cases h
  next response hresponse =>
  split at h
  · cases h
  · cases h
    exact ⟨hline, text, response, htext, hresponse, rfl⟩

variable {run : ChildRun}

/-- On an empty reader, a call with only its response returns it and leaves the reader empty. -/
theorem exchange_own {call : ChildCall} (hempty : run.child.buffered = [])
    (hown : OnlyOwnResponse wire run call) :
    let made := run.child.exchange wire call.io call.operation call.arguments defaultMaxFrameBytes
    made.2.buffered = [] ∧ made.1.AnswersOwn wire := by
  obtain ⟨body, hbody, honly, ⟨response, hcarries⟩, hwhole⟩ := hown
  have hfails : ∀ id payload read error,
      (Exchange.mk id payload read (.error error)).AnswersOwn wire :=
    fun id payload read error value hresult => absurd hresult (by simp)
  unfold StdioChild.exchange
  simp only
  split
  · exact ⟨hempty, hfails _ _ _ _⟩
  split
  · exact ⟨hempty, hfails _ _ _ _⟩
  split
  · exact ⟨hempty, hfails _ _ _ _⟩
  rw [hempty]
  rcases hread : readLine [] [] call.io.arrivals with ⟨read, rest⟩
  cases read with
  | timedOut | failed => exact ⟨readLine_rest hread nofun, hfails _ _ _ _⟩
  | line line =>
    obtain ⟨hline, hrest⟩ := readLine_own hbody honly hwhole hread
    refine ⟨hrest, fun value hresult => ?_⟩
    obtain ⟨hsome, text, found, htext, hfound, hvalue⟩ := lineResult_eq_ok hresult
    obtain rfl : line = body ++ [lineFeed] := hline.resolve_right hsome
    obtain ⟨text', htext', hresponse, hid⟩ := hcarries
    obtain rfl : text' = text := Option.some.inj (htext'.symm.trans htext)
    obtain rfl : response = found := Option.some.inj (hresponse.symm.trans hfound)
    exact ⟨_, response, rfl, ⟨text', htext', hresponse, hid⟩, hvalue⟩

/-! ## Sequences of calls -/

variable {serverId workspaceKey : String}

/-- Between two calls the reader is empty, and every call so far answered itself. -/
theorem quiet_between_calls (hrun : Reaches (ChildRun.step wire) (OnlyOwnResponse wire)
      (ChildRun.fresh serverId workspaceKey) run) :
    run.child.buffered = [] ∧ ∀ exchange ∈ run.exchanges, exchange.AnswersOwn wire := by
  refine hrun.invariant
    (I := fun run => run.child.buffered = [] ∧ ∀ exchange ∈ run.exchanges, exchange.AnswersOwn wire)
    ⟨rfl, forall_mem_nil _⟩ ?_
  rintro run call next ⟨hempty, hanswers⟩ hown hstep
  obtain rfl := Option.some.inj hstep
  obtain ⟨hquiet, hanswer⟩ := exchange_own hempty hown
  refine ⟨hquiet, fun exchange hmem => ?_⟩
  rcases mem_append.mp hmem with hmem | hmem
  · exact hanswers exchange hmem
  · rw [mem_singleton.mp hmem]
    exact hanswer

/-- In every sequence of calls during which only the response of the running call arrives, each
call that returns a result returns its own response. -/
theorem responses_answer_own_call {wire : Wire}
    (hrun : Reaches (ChildRun.step wire) (OnlyOwnResponse wire)
      (ChildRun.fresh serverId workspaceKey) run)
    {exchange : Exchange} (hmem : exchange ∈ run.exchanges) : exchange.AnswersOwn wire :=
  (quiet_between_calls hrun).2 exchange hmem

/-! Two reads on one child: the responses arrive in time, or the first one arrives during the
second call. -/

def repoWire : Wire := tableWire [repoReply 1, repoReply 2]

/-- A read during which these bytes arrive. -/
def repoRead (arrivals : List Arrival) : ChildCall :=
  ⟨"read", .object [], ⟨⟨.done, .done, true⟩, arrivals⟩⟩

theorem timely_responses_answer :
    ∃ run, Reaches (ChildRun.step repoWire) (OnlyOwnResponse repoWire)
        (ChildRun.fresh "repo" "workspace") run ∧
      run.exchanges.length = 2 ∧ ∀ exchange ∈ run.exchanges, exchange.AnswersOwn repoWire := by
  have hown : ∀ run id, run.child.nextId = id → (id = 1 ∨ id = 2) →
      OnlyOwnResponse repoWire run (repoRead [.data (repoLine id)]) := by
    rintro run id hnext (rfl | rfl)
    · refine ⟨(repoLine 1).dropLast, by decide +kernel, by decide +kernel, ⟨repoReply 1, ?_⟩, nofun⟩
      rw [hnext]
      exact ⟨_, rfl, by decide +kernel, by decide +kernel⟩
    · refine ⟨(repoLine 2).dropLast, by decide +kernel, by decide +kernel, ⟨repoReply 2, ?_⟩, nofun⟩
      rw [hnext]
      exact ⟨_, rfl, by decide +kernel, by decide +kernel⟩
  have hfirst := @Reaches.next ChildRun ChildCall (ChildRun.step repoWire)
    (OnlyOwnResponse repoWire)
    (ChildRun.fresh "repo" "workspace") _ _ (repoRead [.data (repoLine 1)]) .start
    (hown _ 1 rfl (.inl rfl)) rfl
  have hrun := Reaches.next (repoRead [.data (repoLine 2)]) hfirst
    (hown _ 2 (by decide +kernel) (.inr rfl)) rfl
  exact ⟨_, hrun, rfl, fun exchange hmem => responses_answer_own_call hrun hmem⟩

/-- A call times out, its response arrives later, and the next call returns it. -/
theorem late_response_answers_next_call :
    ∃ run, Reaches (ChildRun.step repoWire) anyAction (ChildRun.fresh "repo" "workspace") run ∧
      ∃ exchange ∈ run.exchanges, ¬ exchange.AnswersOwn repoWire := by
  obtain ⟨run, hrun, hlate⟩ := @exists_reaches_of_execute ChildRun ChildCall
    (ChildRun.step repoWire) anyAction _ (ChildRun.fresh "repo" "workspace")
    [repoRead [], repoRead [.data (repoLine 1), .data (repoLine 2)]]
    (fun run => run.exchanges.any fun exchange =>
      exchange.id = 2 ∧ exchange.read = some (.line (repoLine 1)) ∧
        exchange.result = .ok (.object [("ok", .bool true)]))
    (by decide +kernel)
  obtain ⟨exchange, hmem, hfound⟩ := any_eq_true.mp hlate
  obtain ⟨hid, hread, hresult⟩ := of_decide_eq_true hfound
  refine ⟨run, hrun, exchange, hmem, fun hown => ?_⟩
  obtain ⟨line, response, hline, ⟨text, htext, hparse, hcarried⟩, _⟩ := hown _ hresult
  obtain rfl : repoLine 1 = line := by
    have := hread.symm.trans hline
    simpa using this
  obtain rfl := Option.some.inj htext
  have hresponse : some (repoReply 1) = some response := hparse ▸ (by decide +kernel)
  obtain rfl := Option.some.inj hresponse
  rw [hid] at hcarried
  exact absurd hcarried (by decide +kernel)

end Workbench.Mcp
