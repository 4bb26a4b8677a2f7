import Workbench.Daemon.ApprovalGate

/-!
# Daemon: attempts are drawn, started, and then settled

An id is drawn once, so everything that a history says about an attempt stands behind its
`dispatch_started`.  A reconciliation follows the `outcome_unknown` it resolves.  Hence the
attempt that `latest_started_attempt` finds has no fact at all.
-/

namespace Workbench.Daemon

open Workbench.Core Config Storage Library List

/-! ## The order of the events of an attempt -/

/-- The events neither start the attempt nor say what became of it. -/
def Unstarted (events : List Event) (attempt : Uuid) : Prop :=
  ∀ event ∈ events, event.attempt = some attempt →
    Event.isFact event = false ∧ Event.isStart event = false

/-- The transaction keeps the starts single, and facts behind starts. -/
def StartsUnsettled (history : List Event) (commit : Commit) : Prop :=
  ∀ before event after, commit.batch = before ++ event :: after → Event.isStart event →
    ∀ attempt, event.attempt = some attempt → Unstarted (history ++ before) attempt

/-- A reconciliation of an attempt. -/
def Event.isReconciliation (event : Event) : Bool :=
  match event.payload with
  | .outcomeReconciled _ _ => true
  | _ => false

/-- The record that the outcome of an attempt is unknown. -/
def Event.isUnknown (event : Event) : Bool :=
  match event.payload with
  | .outcomeUnknown _ => true
  | _ => false

/-- A confirmed cancellation. -/
def Event.isConfirmation (event : Event) : Bool :=
  match event.payload with
  | .cancelConfirmed _ => true
  | _ => false

/-- A reconciliation follows what it reconciles; no confirmed cancellation stands alone. -/
structure Resolves (history : List Event) (commit : Commit) : Prop where
  unknown : ∀ event ∈ commit.batch, Event.isReconciliation event →
    ∃ earlier ∈ history, Event.isUnknown earlier ∧ earlier.attempt = event.attempt
  closed : ∀ init last, commit.batch = init ++ [last] → Event.isConfirmation last = false

section

variable {s : Session} {point : Point} {attempt : Uuid}
  {events history : List Event} {event : Event}

theorem Unstarted.hasFact_eq_false (h : Unstarted events attempt) :
    hasFact events attempt = false := by
  refine any_eq_false.mpr fun event hmem hfact => ?_
  rw [Bool.and_eq_true, beq_iff_eq] at hfact
  rw [(h event hmem hfact.1).1] at hfact
  cases hfact.2

theorem startsUnsettled_aboutDispatches : AboutDispatches StartsUnsettled := by
  intro history commit hnone before event after hsplit hstart
  have hmem : event ∈ commit.batch := by rw [hsplit]; simp
  have hevent := all_eq_true.mp hnone event hmem
  rw [hstart] at hevent
  cases hevent

/-- The next id is unstarted, whatever is appended about other matters. -/
theorem unstarted_nextId (hbelow : Below s.nextId s) (hevents : Unstarted events s.nextId) :
    Unstarted (s.events ++ events) s.nextId := by
  intro event hmem hattempt
  rcases mem_append.mp hmem with hmem | hmem
  · exact absurd (hbelow.events _ (mem_namedAttempts hmem hattempt)) (Nat.lt_irrefl _)
  · exact hevents event hmem hattempt

theorem dispatching_unsettled (hbelow : Below s.nextId s) :
    Dispatching StartsUnsettled s point where
  grant request approvalId folded stored confirmed column _ _ := by
    intro before event after hsplit hstart attempt hattempt
    obtain ⟨rfl, rfl⟩ := split_at_start [_, _] rfl hsplit hstart
    cases hattempt
    exact unstarted_nextId hbelow (by simp [Unstarted, Event.isFact, Event.isStart])
  retry request found evidence stored confirmed column _ huncertain := by
    intro before event after hsplit hstart attempt hattempt
    obtain ⟨rfl, rfl⟩ := split_at_start [_, _] rfl hsplit hstart
    cases hattempt
    -- the reconciled attempt is an older one
    have hlt := hbelow.events found huncertain.named
    have hne : found ≠ s.nextId := Nat.ne_of_lt hlt
    exact unstarted_nextId hbelow (by simp [Unstarted, Event.isFact, Event.isStart, hne])
  step request run plan stored confirmed column _ := by
    intro before event after hsplit hstart attempt hattempt
    obtain ⟨rfl, rfl⟩ := split_at_start [] rfl hsplit hstart
    cases hattempt
    rw [append_nil]
    exact unstarted_nextId hbelow (by simp [Unstarted, stepEvents, dispatchEvents, Event.isFact,
      Event.isStart])

/-- The batch has no reconciliation and does not end with a confirmation. -/
def resolvesNothing (batch : List Event) : Bool :=
  batch.all (fun event => !Event.isReconciliation event) &&
    batch.getLast?.all fun last => !Event.isConfirmation last

theorem resolves_of_nothing {commit : Commit} (h : resolvesNothing commit.batch) :
    Resolves history commit := by
  rw [resolvesNothing, Bool.and_eq_true] at h
  refine ⟨fun event hmem hevent => ?_, fun init last hbatch => ?_⟩
  · have hplain := all_eq_true.mp h.1 event hmem
    rw [hevent] at hplain
    cases hplain
  · have hlast := h.2
    rw [hbatch, getLast?_concat] at hlast
    simpa using hlast

/-- Events of this kind reconcile an outcome or confirm a cancellation. -/
def resolvesAttempt : EventPayload → Bool
  | .outcomeReconciled _ | .cancelConfirmed => true
  | _ => false

theorem resolves_of_areOf {kinds : List EventPayload} {commit : Commit}
    (h : areOf kinds commit.batch)
    (hkinds : kinds.all (fun kind => !resolvesAttempt kind)) : Resolves history commit := by
  have hplain : ∀ event ∈ commit.batch,
      Event.isReconciliation event = false ∧ Event.isConfirmation event = false := by
    intro event hmem
    have hkind := all_eq_true.mp hkinds _ (areOf_iff.mp h event hmem)
    obtain ⟨payload, causation, attempt⟩ := event
    cases payload with
    | outcomeReconciled | cancelConfirmed => cases hkind
    | _ => exact ⟨rfl, rfl⟩
  refine ⟨fun event hmem hevent => ?_, fun init last hbatch => ?_⟩
  · rw [(hplain event hmem).1] at hevent
    cases hevent
  · exact (hplain last (by simp [hbatch])).2

theorem resolvesNothing_control {batch : List Event} (h : controlCompletion events = some batch) :
    resolvesNothing batch := by
  unfold controlCompletion at h
  split at h
  · cases h
  split at h
  · cases h; rfl
  · split at h <;> cases h <;> rfl
  · cases h; rfl
  · cases h

/-- A reconciliation in front of events that resolve nothing. -/
theorem resolves_of_uncertain (huncertain : s.Uncertain attempt)
    {resolution : ReconciliationResolution}
    {replacement request : Option Uuid} {rest : List Event} {stored : Option StoredCommand}
    {confirmed : List Uuid} {column : SessionState} (hrest : resolvesNothing rest)
    (hsome : rest ≠ []) :
    Resolves s.events
      ⟨⟨.outcomeReconciled resolution replacement, request, some attempt⟩ :: rest, stored,
        confirmed, column⟩ := by
  have hresolves : Resolves s.events ⟨rest, stored, confirmed, column⟩ := resolves_of_nothing hrest
  refine ⟨fun event hmem hevent => ?_, fun init last hbatch => ?_⟩
  · rcases mem_cons.mp hmem with rfl | hmem
    · obtain ⟨unknown, hunknown, ⟨reason, hpayload⟩, hattempt⟩ := huncertain.recorded
      exact ⟨unknown, hunknown, by rw [Event.isUnknown, hpayload], hattempt⟩
    · exact hresolves.unknown event hmem hevent
  · cases init with
    | nil =>
      obtain ⟨_, hnil⟩ := cons.inj hbatch
      exact absurd hnil hsome
    | cons first init => exact hresolves.closed init last (cons.inj hbatch).2

theorem transacting_resolves (s : Session) (point : Point) (response : Response) :
    Transacting Resolves s point response := by
  refine ⟨fun done batch stored h column _ => ?_, fun _ _ _ _ _ _ _ _ => resolves_of_nothing rfl⟩
  have hkinds := (areOf_append.mp h.areOf).2
  cases h with
  | command _ _ _ _ hcommit =>
    cases hcommit with
    | retry _ _ _ huncertain | acceptResult _ _ _ _ huncertain | abandon _ _ _ _ huncertain =>
      rw [append_nil]
      exact resolves_of_uncertain huncertain rfl (by simp [dispatchEvents])
    | outcome | decidedAgain | cancelNow | cancelAttempt => exact resolves_of_nothing rfl
    | _ => exact resolves_of_areOf hkinds rfl
  | unavailable | failed => exact resolves_of_areOf (areOf_failureEvent _ _ _ _) rfl
  | resolved =>
    refine resolves_of_nothing ?_
    dsimp only [resolutionEvents]
    split <;> rfl
  | _ => exact resolves_of_areOf hkinds rfl

theorem upkeeping_resolves (s : Session) : Upkeeping Resolves s := by
  refine ⟨fun done batch stored h column _ => ?_, fun _ _ _ _ _ => resolves_of_nothing rfl⟩
  cases h with
  | control _ hbatch => exact resolves_of_nothing (resolvesNothing_control hbatch)
  | stopped | exported | uncertain => exact resolves_of_nothing rfl

theorem isFact_eq (event : Event) :
    Event.isFact event = (Event.isFinish event || Event.isReconciliation event) := by
  unfold Event.isFact Event.isFinish Event.isReconciliation
  cases event.payload <;> rfl

theorem isFinish_of_isUnknown (h : Event.isUnknown event) : Event.isFinish event := by
  unfold Event.isUnknown at h
  unfold Event.isFinish
  split at h
  · next hpayload => rw [hpayload]
  · cases h

theorem isFact_of_isStart (h : Event.isStart event) : Event.isFact event = false := by
  unfold Event.isStart at h
  unfold Event.isFact
  split at h
  · next hpayload => rw [hpayload]
  · cases h

/-- The latest started attempt has no fact, if facts and reconciliations stand where they should. -/
theorem latestStartedAttempt_unsettled
    (hstarts : ∀ before event after, history = before ++ event :: after →
      Event.isStart event → ∀ attempt, event.attempt = some attempt →
      hasFact before attempt = false)
    (hresolves : ∀ before event after, history = before ++ event :: after →
      Event.isReconciliation event →
      ∃ earlier ∈ before, Event.isUnknown earlier ∧ earlier.attempt = event.attempt)
    (hlatest : latestStartedAttempt history = some attempt) : hasFact history attempt = false := by
  unfold latestStartedAttempt at hlatest
  split at hlatest
  · cases hlatest
  next started later hfrom =>
  obtain ⟨⟨init, rfl⟩, hstart⟩ := fromLastStart_split hfrom
  split at hlatest
  · cases hlatest
  next found hattempt =>
  obtain ⟨hunfinished, hlatest⟩ := Option.ite_none_left_eq_some.mp hlatest
  cases hlatest
  have hbefore := hstarts init started later rfl hstart attempt hattempt
  have hfinish : ∀ event ∈ init ++ started :: later, event.attempt = some attempt →
      Event.isFinish event = false := by
    intro event hmem hevent
    rcases mem_append.mp hmem with hmem | hmem
    · have hnot := any_eq_false.mp hbefore event hmem
      simp only [hevent, isFact_eq, beq_self_eq_true, Bool.true_and, Bool.or_eq_true] at hnot
      exact Bool.eq_false_iff.mpr fun hfinish => hnot (.inl hfinish)
    rcases mem_cons.mp hmem with rfl | hmem
    · have hnofact := isFact_of_isStart hstart
      rw [isFact_eq, Bool.or_eq_false_iff] at hnofact
      exact hnofact.1
    · have hnot := any_eq_false.mp (Bool.eq_false_iff.mpr hunfinished) event hmem
      simpa [hevent] using hnot
  -- so a fact could only be a reconciliation, and it follows an unknown outcome
  refine any_eq_false.mpr fun event hmem hfact => ?_
  rw [Bool.and_eq_true, beq_iff_eq] at hfact
  obtain ⟨hevent, hfact⟩ := hfact
  rw [isFact_eq, hfinish event hmem hevent, Bool.false_or] at hfact
  obtain ⟨before, after, hsplit⟩ := append_of_mem hmem
  obtain ⟨unknown, hearlier, hunknown, hsame⟩ := hresolves before event after hsplit hfact
  have hnot := hfinish unknown (by simp [hsplit, hearlier]) (hsame.trans hevent)
  rw [isFinish_of_isUnknown hunknown] at hnot
  cases hnot

end

/-- What the order of the events says about a stored session. -/
structure Ordered (events : List Event) : Prop where
  latest : ∀ attempt, latestStartedAttempt events = some attempt → hasFact events attempt = false
  closed : ∀ init last, events = init ++ [last] → Event.isConfirmation last = false

section

variable {env : Environment} {allowed : Application → Action → Prop} {app : Application}
  (hreach : Reaches (Application.step env) allowed .initial app)
include hreach

theorem starts_unsettled : ∀ s ∈ app.sessions, ∀ column, s.row = some column →
    ∀ before event after, s.events = before ++ event :: after → Event.isStart event →
      ∀ attempt, event.attempt = some attempt → Unstarted before attempt := by
  intro s hmem column hrow before event after hsplit hstart attempt hattempt
  have hstarts : LogMeets StartsUnsettled s := dispatches_invariant startsUnsettled_aboutDispatches
    (fun h => dispatching_unsettled
    ((attempts_drawn h.reached _ (mem_of_getElem? h.session)).of_subset
      rfl (.inl rfl) fun _ hmem => mem_of_mem_eraseIdx hmem)) hreach s hmem
  rw [(hstarts.logged column hrow).events] at hsplit
  obtain ⟨earlier, commit, later, first, rest, hcommits, hbatch, rfl, _⟩ :=
    exists_commit_of_split hsplit
  exact hstarts.every earlier commit later hcommits first event rest hbatch hstart attempt hattempt

theorem events_ordered :
    ∀ s ∈ app.sessions, ∀ column, s.row = some column → Ordered s.events := by
  intro s hmem column hrow
  have hstarts := starts_unsettled hreach s hmem column hrow
  have hresolves : LogMeets Resolves s := transactions_invariant (fun s _ => upkeeping_resolves s)
    (fun _ _ => resolves_of_nothing rfl) (fun _ _ => transacting_resolves _ _ _) hreach s hmem
  rw [(hresolves.logged column hrow).events] at hstarts ⊢
  refine ⟨fun attempt hlatest => latestStartedAttempt_unsettled ?_ ?_ hlatest,
    fun init last hsplit => ?_⟩
  · intro before event after hsplit hstart attempt hattempt
    exact (hstarts before event after hsplit hstart attempt hattempt).hasFact_eq_false
  · intro before event after hsplit hevent
    obtain ⟨earlier, commit, later, first, rest, hcommits, hbatch, rfl, _⟩ :=
      exists_commit_of_split hsplit
    obtain ⟨unknown, hunknown, h⟩ := (hresolves.every earlier commit later hcommits).unknown event
      (by rw [hbatch]; simp) hevent
    exact ⟨unknown, mem_append_left _ hunknown, h⟩
  · obtain ⟨earlier, commit, later, first, rest, hcommits, hbatch, _, hafter⟩ :=
      exists_commit_of_split hsplit
    obtain ⟨rfl, _⟩ := append_eq_nil_iff.mp hafter.symm
    exact (hresolves.every earlier commit later hcommits).closed first last hbatch

/-- No history starts an attempt twice or says what became of one before its start. -/
theorem attempts_start_once : ∀ s ∈ app.sessions, ∀ column, s.row = some column →
    (startedAttempts s.events).Nodup ∧
      ∀ before event after, s.events = before ++ event :: after → Event.isStart event →
        ∀ attempt, event.attempt = some attempt → hasFact before attempt = false := by
  intro s hmem column hrow
  have hstarts := starts_unsettled hreach s hmem column hrow
  refine ⟨?_, fun before event after hsplit hstart attempt hattempt =>
    (hstarts before event after hsplit hstart attempt hattempt).hasFact_eq_false⟩
  generalize s.events = events at hstarts
  induction events using reverseRecOn with
  | nil => exact nodup_nil
  | append_singleton init last ih =>
    have hinit := ih fun before event after hsplit =>
      hstarts before event (after ++ [last]) (by rw [hsplit, append_assoc, cons_append])
    rw [startedAttempts_append]
    cases hlast : if Event.isStart last then last.attempt else none with
    | none => simpa [startedAttempts, hlast] using hinit
    | some attempt =>
      obtain ⟨hstart, hattempt⟩ := Option.ite_none_right_eq_some.mp hlast
      have hfresh : attempt ∉ startedAttempts init := by
        intro hmem
        obtain ⟨event, hevent, hsome⟩ := mem_filterMap.mp hmem
        obtain ⟨hagain, hsame⟩ := Option.ite_none_right_eq_some.mp hsome
        have hnot := (hstarts init last [] rfl hstart attempt hattempt event hevent hsame).2
        rw [hagain] at hnot
        cases hnot
      simpa [startedAttempts, hlast] using Nodup.concat hfresh hinit

end

/-- Both steps of a workflow have started an attempt. -/
theorem granted_attempt_starts_once :
    ∃ app, Reaches (Application.step smallEnvironment) anyAction .initial app ∧
      (∃ s ∈ app.sessions, s.row = some .running ∧ (startedAttempts s.events).length = 2) ∧
      ∀ s ∈ app.sessions, ∀ column, s.row = some column → (startedAttempts s.events).Nodup ∧
        ∀ before event after, s.events = before ++ event :: after → Event.isStart event →
          ∀ attempt, event.attempt = some attempt → hasFact before attempt = false :=
  exists_reaches_and
    (smallStart .api [smallStep "a", smallStep "b"] ++ smallPrompt ++
      [.resume 0 0 (.item (.completed "done")) [], .resume 0 0 .proceed [],
       .resume 0 0 .proceed []])
    (by decide +kernel) fun _ hreach _ s hmem column hrow =>
      attempts_start_once hreach s hmem column hrow

end Workbench.Daemon
