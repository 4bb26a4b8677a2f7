import Workbench.Daemon.PromptOnce
import Workbench.Daemon.Transaction

/-!
# Daemon: an approval is decided once

`handle_approval` records a decision only when the folded history has none for the approval.
A repeated decision is answered with the result of the first one, a conflicting one is
rejected.  A request id that is recorded for another command is rejected before the decision
is looked at, and a repeated grant may activate the started attempt again before it answers.
-/

namespace Workbench.Daemon

open Workbench.Core Config Storage Library Program List

/-- The decision that an event records. -/
def Event.decision (event : Event) : Option (Uuid × ApprovalDecision) :=
  match event.payload with
  | .approvalRecorded approvalId decision => some (approvalId, decision)
  | _ => none

/-- The decisions of a history, in order. -/
def decisions (events : List Event) : List (Uuid × ApprovalDecision) :=
  events.filterMap Event.decision

/-- The approvals of a history that are decided, once for each decision. -/
def decidedApprovals (events : List Event) : List Uuid := (decisions events).map Prod.fst

/-- The request id is recorded for another command. -/
def Session.conflicts (s : Session) (request : Uuid) (command : Command) : Bool :=
  match s.commands.find? (fun stored => stored.request == request) with
  | some stored => stored.command ≠ command
  | none => false

/-- A repeated grant is about to activate the started attempt. -/
def Session.reactivates (s : Session) (request : Uuid) (command : Command) : Bool :=
  s.replays (.command request command) && (latestStartedAttempt s.events).isSome

/-! ## Folded decisions -/

@[simp] theorem decisions_append (first second : List Event) :
    decisions (first ++ second) = decisions first ++ decisions second := filterMap_append

theorem next_approvalDecisions (folded : FoldedSession) (event : Event) :
    (folded.next event).approvalDecisions =
    (Event.decision event).toList ++ folded.approvalDecisions := by
  obtain ⟨payload, causation, attempt⟩ := event
  cases payload with
  | sessionRedirected =>
    unfold FoldedSession.next
    dsimp only
    split <;> rfl
  | _ => rfl

theorem foldl_approvalDecisions (events : List Event) (folded : FoldedSession) :
    (events.foldl FoldedSession.next folded).approvalDecisions
      = (decisions events).reverse ++ folded.approvalDecisions := by
  induction events generalizing folded with
  | nil => rfl
  | cons event rest ih =>
    rw [foldl_cons, ih, next_approvalDecisions]
    cases hdecision : Event.decision event <;> simp [decisions, hdecision]

variable {events : List Event} {folded : FoldedSession} {approvalId : Uuid}

theorem foldSession_decisions (h : foldSession events = .ok folded) :
    folded.approvalDecisions = (decisions events).reverse := by
  unfold foldSession at h
  split at h
  · cases h
    rw [foldl_approvalDecisions]
    exact append_nil _
  · cases h

/-- An approval without a folded decision has none in the history. -/
theorem not_mem_decidedApprovals (hfold : foldSession events = .ok folded)
    (hlookup : folded.approvalDecisions.lookup approvalId = none) :
    approvalId ∉ decidedApprovals events := by
  intro hmem
  obtain ⟨decided, hdecided, rfl⟩ := mem_map.mp hmem
  rw [foldSession_decisions hfold] at hlookup
  have hne := lookup_eq_none_iff.mp hlookup decided (mem_reverse.mpr hdecided)
  simp at hne

variable {decision : ApprovalDecision}

/-- The folded decision of an approval is recorded in the history. -/
theorem mem_decisions_of_lookup (hfold : foldSession events = .ok folded)
    (hlookup : folded.approvalDecisions.lookup approvalId = some decision) :
    (approvalId, decision) ∈ decisions events := by
  rw [← mem_reverse, ← foldSession_decisions hfold]
  exact mem_of_lookup hlookup

/-- Where no approval is decided twice, a recorded decision is the folded one. -/
theorem lookup_of_mem_decisions
    (hfold : foldSession events = .ok folded) (honce : (decidedApprovals events).Nodup)
    (hmem : (approvalId, decision) ∈ decisions events) :
    folded.approvalDecisions.lookup approvalId = some decision := by
  cases hlookup : folded.approvalDecisions.lookup approvalId with
  | none =>
    exact absurd (mem_map_of_mem hmem) (not_mem_decidedApprovals hfold hlookup)
  | some found =>
    have hfound := mem_decisions_of_lookup hfold hlookup
    have heq := inj_on_of_nodup_map honce hfound hmem rfl
    rw [(Prod.mk.inj heq).2]

/-! ## Transactions -/

/-- No approval is decided twice; a decision is committed with its result, and every approval
command is recorded with the result of its decision in the history. -/
structure DecidedOnce (history : List Event) (commit : Commit) : Prop where
  begun : ∃ folded, foldSession (history ++ commit.batch) = .ok folded
  once : (decidedApprovals (history ++ commit.batch)).Nodup
  result : ∀ approvalId decision, (approvalId, decision) ∈ decisions commit.batch →
    ∃ request, commit.stored = some ⟨request, .approvalResolve approvalId decision,
      .approval approvalId decision (decisionState decision)⟩
  stored : ∀ request approvalId decision outcome,
    commit.stored = some ⟨request, .approvalResolve approvalId decision, outcome⟩ →
    outcome = .approval approvalId decision (decisionState decision) ∧
      (approvalId, decision) ∈ decisions (history ++ commit.batch)

section

variable {s : Session} {point : Point} {response : Response}
  {column : SessionState} {done batch : List Event} {stored : Option StoredCommand}
  {request approvalId : Uuid} {decision : ApprovalDecision}

theorem LogMeets.decidedOnce (h : LogMeets DecidedOnce s) (hrow : s.row = some column) :
    (∃ folded, foldSession s.events = .ok folded) ∧ (decidedApprovals s.events).Nodup := by
  obtain ⟨_, _, hevents, _, hdecided⟩ := h.last hrow
  rw [hevents]
  exact ⟨hdecided.begun, hdecided.once⟩

/-- The events decide at most one approval, and one that the history has not decided. -/
inductive DecidesNew (s : Session) (events : List Event) : Prop where
  | none (h : decisions events = [])
  | one (approvalId : Uuid) (decision : ApprovalDecision) (folded : FoldedSession)
      (h : decisions events = [(approvalId, decision)]) (hfold : foldSession s.events = .ok folded)
      (hundecided : folded.approvalDecisions.lookup approvalId = none)

theorem DecidesNew.nodup (h : DecidesNew s events)
    (honce : (decidedApprovals s.events).Nodup) :
    (decidedApprovals (s.events ++ events)).Nodup := by
  rw [decidedApprovals, decisions_append, map_append]
  cases h with
  | none h =>
    rw [h, map_nil, append_nil]
    exact honce
  | one _ _ _ h hfold hundecided =>
    rw [h]
    refine nodup_append.mpr ⟨honce, nodup_singleton _, ?_⟩
    rintro decided hdecided other hother rfl
    obtain rfl := mem_singleton.mp hother
    exact not_mem_decidedApprovals hfold hundecided hdecided

theorem LogMeets.commitMeets_decided (h : LogMeets DecidedOnce s)
    (hnew : DecidesNew s (done ++ batch))
    (hresult : ∀ approvalId decision, (approvalId, decision) ∈ decisions batch →
      ∃ request, stored = some ⟨request, .approvalResolve approvalId decision,
        .approval approvalId decision (decisionState decision)⟩)
    (hstored : ∀ request approvalId decision outcome,
      stored = some ⟨request, .approvalResolve approvalId decision, outcome⟩ →
      outcome = .approval approvalId decision (decisionState decision) ∧
        (approvalId, decision) ∈ decisions (s.events ++ (done ++ batch))) :
    CommitMeets DecidedOnce s done batch stored := by
  intro column hrow
  obtain ⟨⟨folded, hfold⟩, honce⟩ := h.decidedOnce hrow
  constructor
  · rw [append_assoc]
    exact ⟨_, foldSession_append hfold _⟩
  · rw [append_assoc]
    exact hnew.nodup honce
  · exact hresult
  · rw [append_assoc]
    exact hstored

/-- The command decides an approval. -/
def Command.isDecision : Command → Bool
  | .approvalResolve _ _ => true
  | _ => false

variable (h : LogMeets DecidedOnce s)
include h

/-- The transaction of another command, or of no command. -/
theorem LogMeets.commitMeets_other
    (hnew : DecidesNew s (done ++ batch)) (hbatch : decisions batch = [])
    (hstored : stored.all (fun recorded => !recorded.command.isDecision)) :
    CommitMeets DecidedOnce s done batch stored := by
  refine h.commitMeets_decided hnew (fun approvalId decision hmem => ?_)
    fun request approvalId decision outcome heq => ?_
  · rw [hbatch] at hmem
    cases hmem
  · rw [heq] at hstored
    cases hstored

theorem LogMeets.commitMeets_none (hnone : decisions (done ++ batch) = [])
    (hstored : stored.all (fun recorded => !recorded.command.isDecision)) :
    CommitMeets DecidedOnce s done batch stored := by
  refine h.commitMeets_other (.none hnone) ?_ hstored
  rw [decisions_append] at hnone
  exact (append_eq_nil_iff.mp hnone).2

theorem LogMeets.deletionMeets_decided : DeletionMeets DecidedOnce s := by
  intro column journal hrow _ _
  obtain ⟨⟨folded, hfold⟩, honce⟩ := h.decidedOnce hrow
  refine ⟨⟨_, foldSession_append hfold _⟩, DecidesNew.nodup (.none rfl) honce, ?_, ?_⟩
  · intro approvalId decision hmem
    cases hmem
  · intro request approvalId decision outcome heq
    cases heq

omit h

/-- Events of this kind decide an approval. -/
def decidesApproval : EventPayload → Bool
  | .approvalRecorded _ => true
  | _ => false

theorem decisions_of_areOf {kinds : List EventPayload} (h : areOf kinds batch)
    (hkinds : kinds.all (fun kind => !decidesApproval kind)) : decisions batch = [] := by
  refine filterMap_eq_nil_iff.mpr fun event hmem => ?_
  have hkind := all_eq_true.mp hkinds _ (areOf_iff.mp h event hmem)
  obtain ⟨payload, causation, attempt⟩ := event
  cases payload with
  | approvalRecorded => cases hkind
  | _ => rfl

/-- What a command appends before it activates an attempt, and the failure of the activation. -/
theorem Activated.decidesNew {causation attempt : Uuid} {command : Command}
    (h : Activated s request command causation attempt done) (hbatch : decisions batch = []) :
    DecidesNew s (done ++ batch) := by
  cases h with
  | grant approvalId folded hawaits =>
    refine .one approvalId .grant folded ?_ hawaits.fold hawaits.undecided
    rw [decisions_append, hbatch]
    rfl
  | retry | replay =>
    refine .none ?_
    rw [decisions_append, hbatch]
    rfl

theorem LogMeets.transacting_decided (hlog : LogMeets DecidedOnce s) :
    Transacting DecidedOnce s point response := by
  refine ⟨fun done batch stored h => ?_, fun _ _ _ => hlog.deletionMeets_decided⟩
  have hkinds := h.areOf
  cases h with
  | command request _ _ _ hcommit =>
    cases hcommit with
    | outcome _ _ hcommand =>
      refine hlog.commitMeets_decided (.none rfl) (fun _ _ hmem => (nomatch hmem))
        fun found approvalId decision _ heq => ?_
      cases heq
      exact absurd rfl (hcommand approvalId decision)
    | decidedAgain _ _ _ hfold hdecided =>
      refine hlog.commitMeets_decided (.none rfl) (fun _ _ hmem => (nomatch hmem))
        fun found other recorded _ heq => ?_
      cases heq
      exact ⟨rfl, by simpa [decisions] using mem_decisions_of_lookup hfold hdecided⟩
    | grant approvalId folded hawaits | deny approvalId folded hawaits =>
      refine hlog.commitMeets_decided (.one approvalId _ folded rfl hawaits.fold hawaits.undecided)
        (fun other decision hmem => ?_) fun found other recorded _ heq => ?_
      · cases mem_singleton.mp hmem
        exact ⟨request, rfl⟩
      · cases heq
        exact ⟨rfl, by simp [decisions, Event.decision]⟩
    | retry | acceptResult | abandon => exact hlog.commitMeets_none rfl rfl
    | _ => exact hlog.commitMeets_none (decisions_of_areOf hkinds rfl) rfl
  | unavailable _ causation attempt _ _ state hactivated =>
    have hfailure := decisions_of_areOf
      (areOf_failureEvent state causation attempt adapterUnavailable) rfl
    exact hlog.commitMeets_other (hactivated.decidesNew hfailure) hfailure rfl
  | failed => exact hlog.commitMeets_none (decisions_of_areOf (areOf_failureEvent _ _ _ _) rfl) rfl
  | _ => exact hlog.commitMeets_none (decisions_of_areOf hkinds rfl) rfl

theorem LogMeets.upkeeping_decided (hlog : LogMeets DecidedOnce s) : Upkeeping DecidedOnce s := by
  refine ⟨fun done batch stored h => ?_, hlog.deletionMeets_decided⟩
  refine hlog.commitMeets_none (decisions_of_areOf h.areOf rfl) ?_
  cases h with
  | exported _ _ _ command hcommand => cases command <;> first | rfl | cases hcommand
  | stopped | control | uncertain => rfl

/-! ## Answers -/

/-- What an approval command gets once the approval is decided: a request id recorded for another
command is rejected, else a conflicting decision is, and the same decision gets that result. -/
def Session.AnswersDecided (env : Environment) (s : Session) (request approvalId : Uuid)
    (recorded decision : ApprovalDecision) : Prop :=
  let command := Command.approvalResolve approvalId decision
  let answer := (dispatchSession env request command).run [] s
  if s.conflicts request command then
    answer = (.error (.invalidRequest "storage rejected the command"), s)
  else if decision ≠ recorded then answer = (.error .invalidTransition, s)
  else s.reactivates request command = false →
    answer.1 = .ok (.reply (.approval approvalId recorded (decisionState recorded))) ∧
      answer.2.events = s.events ∧ answer.2.row = s.row

/-- What a request id is recorded for: another command, none, or this one. -/
theorem recorded_cases (s : Session) (request : Uuid) (command : Command) :
    (s.conflicts request command ∧
        s.recorded request command = .error (.invalidRequest "storage rejected the command")) ∨
      s.conflicts request command = false ∧ (s.recorded request command = .ok none ∨
        ∃ stored ∈ s.commands, stored = ⟨request, command, stored.outcome⟩ ∧
          s.recorded request command = .ok (some stored.outcome)) := by
  unfold Session.conflicts Session.recorded
  cases hfound : s.commands.find? (fun stored => stored.request == request) with
  | none => exact .inr ⟨rfl, .inl rfl⟩
  | some stored =>
    by_cases hsame : stored.command = command
    · have hrequest : stored.request = request := by simpa using find?_some hfound
      refine .inr ⟨by simp [hsame], .inr ⟨stored, mem_of_find?_eq_some hfound, ?_, ?_⟩⟩
      · rw [← hrequest, ← hsame]
      · exact if_pos hsame
    · exact .inl ⟨by simp [hsame], if_neg hsame⟩

theorem run_cachedOutcome (hunburied : s.tombstone = none) (request : Uuid) (command : Command) :
    (cachedOutcome request command).run [] s = (s.recorded request command, s) := by
  rw [cachedOutcome, run_invoke_nil, Program.perform]
  cases hrecorded : s.recorded request command with
  | error e => rfl
  | ok found =>
    cases found with
    | some outcome => rfl
    | none =>
      have hburied : s.buried request command = .ok none := by
        rw [Session.buried, hunburied]
      simp only [bind, Except.bind, hburied]
      rfl

theorem run_history (hkey : s.key) : history.run [] s = (.ok s.events, s) := by
  rw [history, run_invoke_nil, Program.perform, if_pos hkey]

variable {env : Environment} {outcome : Outcome} {recorded : ApprovalDecision}

/-- A request that repeats a recorded one and activates nothing. -/
theorem run_repeated (hunburied : s.tombstone = none) (hkey : s.key)
    (hfold : foldSession s.events = .ok folded)
    (hrecorded : s.recorded request (.approvalResolve approvalId decision) = .ok (some outcome))
    (hquiet : s.reactivates request (.approvalResolve approvalId decision) = false) :
    (handleApproval env request approvalId decision).run [] s = (replyWith outcome).run [] s := by
  rw [handleApproval, run_bind_nil, run_cachedOutcome hunburied, hrecorded]
  dsimp only
  cases decision with
  | deny => rfl
  | grant =>
    rw [if_pos rfl, replayGrant, run_bind_ok (run_history hkey), hfold]
    rw [run_bind_ok (run_lift _ _ _), run_bind_ok (run_read _ _ _)]
    cases hlatest : latestStartedAttempt s.events with
    | none => rfl
    | some attempt =>
      have hidle : ¬ (folded.state = .running ∧ s.active.isNone = true) := by
        rintro ⟨hrunning, hactive⟩
        have hfolds : s.FoldsTo .running := ⟨folded, hfold, hrunning⟩
        simp [Session.reactivates, Session.replays, hrecorded, hfolds, hactive, hlatest] at hquiet
      dsimp only
      rw [if_neg hidle]

/-- A decided approval under a request id that is not recorded. -/
theorem run_new (hunburied : s.tombstone = none) (hkey : s.key)
    (hrow : s.row = some column) (hfold : foldSession s.events = .ok folded)
    (hnone : s.recorded request (.approvalResolve approvalId decision) = .ok none)
    (hdecided : folded.approvalDecisions.lookup approvalId = some recorded) :
    (handleApproval env request approvalId decision).run [] s =
      if recorded ≠ decision then (.error .invalidTransition, s)
      else (.ok (.reply (.approval approvalId decision (decisionState recorded))),
        s.apply (.commit [] (some ⟨request, .approvalResolve approvalId decision,
          .approval approvalId decision (decisionState recorded)⟩))) := by
  rw [handleApproval, run_bind_nil, run_cachedOutcome hunburied, hnone]
  dsimp only
  rw [run_bind_ok (run_history hkey), hfold, run_bind_ok (run_lift _ _ _), hdecided]
  dsimp only
  split
  · rfl
  · rw [run_bind_nil, recordCommandOutcome, run_invoke_nil, Program.perform, hnone]
    simp only [bind, Except.bind, hrow, Option.isNone_some, Bool.false_eq_true, if_false]
    rfl

/-- The result that an approval command is recorded with, and the decision it stands for. -/
theorem LogMeets.stored_decision (hlog : LogMeets DecidedOnce s) (hrow : s.row = some column)
    (hstored : ⟨request, .approvalResolve approvalId decision, outcome⟩ ∈ s.commands) :
    outcome = .approval approvalId decision (decisionState decision) ∧
      (approvalId, decision) ∈ decisions s.events := by
  obtain ⟨hevents, _, hcommands, _⟩ := hlog.logged column hrow
  rw [hcommands] at hstored
  obtain ⟨commit, hcommit, hfound⟩ := mem_filterMap.mp hstored
  obtain ⟨earlier, later, hsplit⟩ := append_of_mem hcommit
  obtain ⟨houtcome, hmem⟩ := (hlog.every earlier commit later hsplit).stored _ _ _ _ hfound
  refine ⟨houtcome, ?_⟩
  have hlonger : s.events = (committed earlier ++ commit.batch) ++ committed later := by
    rw [hevents, hsplit, committed, flatMap_append, flatMap_cons, append_assoc]
    rfl
  rw [hlonger, decisions_append]
  exact mem_append_left _ hmem

theorem LogMeets.answersDecided (hlog : LogMeets DecidedOnce s) (env : Environment)
    (hrow : s.row = some column) (hkey : s.key)
    (hmem : (approvalId, recorded) ∈ decisions s.events) (request : Uuid)
    (decision : ApprovalDecision) : s.AnswersDecided env request approvalId recorded decision := by
  obtain ⟨⟨folded, hfold⟩, honce⟩ := hlog.decidedOnce hrow
  obtain ⟨hevents, _, hcommands, hunburied⟩ := hlog.logged column hrow
  have hdecided := lookup_of_mem_decisions hfold honce hmem
  rcases recorded_cases s request (.approvalResolve approvalId decision) with
    ⟨hconflict, herror⟩ | ⟨hfree, hnone | ⟨stored, hstored, hshape, hfound⟩⟩
  · rw [Session.AnswersDecided, if_pos hconflict]
    show (handleApproval env request approvalId decision).run [] s = _
    rw [handleApproval, run_bind_nil, run_cachedOutcome hunburied, herror]
  · have hrun : (dispatchSession env request (.approvalResolve approvalId decision)).run [] s = _ :=
      run_new hunburied hkey hrow hfold hnone hdecided
    rw [Session.AnswersDecided, if_neg (by simp [hfree])]
    split
    · next hother => exact hrun.trans (if_pos (Ne.symm hother))
    next hsame =>
    obtain rfl : decision = recorded := not_not.mp hsame
    rw [if_neg (not_not.mpr rfl)] at hrun
    intro _
    simp only [hrun]
    refine ⟨trivial, ?_, ?_⟩
    · exact (Session.apply_commit_events hrow [] _).trans (append_nil _)
    · show s.row.map _ = _
      rw [hrow]
      rfl
  · obtain ⟨houtcome, hrecorded⟩ := hlog.stored_decision hrow (hshape ▸ hstored)
    obtain rfl : decision = recorded :=
      Option.some.inj ((lookup_of_mem_decisions hfold honce hrecorded).symm.trans hdecided)
    rw [houtcome] at hfound
    rw [Session.AnswersDecided, if_neg (by simp [hfree]), if_neg (not_not.mpr rfl)]
    intro hquiet
    have hrun : (dispatchSession env request (.approvalResolve approvalId decision)).run [] s = _ :=
      run_repeated hunburied hkey hfold hfound hquiet
    simp only [hrun]
    exact ⟨rfl, rfl, rfl⟩

end

/-! ## Runs -/

theorem EveryCommit.decided_once {commits : List Commit} (h : EveryCommit DecidedOnce commits) :
    (decidedApprovals (committed commits)).Nodup := by
  rcases eq_nil_or_concat commits with rfl | ⟨earlier, last, rfl⟩
  · exact nodup_nil
  · rw [concat_eq_append] at h ⊢
    rw [committed_concat]
    exact (h earlier last [] rfl).once

/-- In every run, an approval is decided at most once, in a transaction that records its result.
While the session is stored, later requests get that result or are rejected without a change,
except that a repeated grant may activate its attempt again. -/
theorem approvals_decided_once (env : Environment) {app : Application}
    (hreach : Reaches (Application.step env) anyAction .initial app) {s : Session}
    (hmem : s ∈ app.sessions) :
    (∀ approvalId, (decidedApprovals (committed s.commits)).count approvalId ≤ 1) ∧
    (∀ commit ∈ s.commits, ∀ approvalId decision, (approvalId, decision) ∈ decisions commit.batch →
      ∃ request, commit.stored = some ⟨request, .approvalResolve approvalId decision,
        .approval approvalId decision (decisionState decision)⟩) ∧
    ∀ task column approvalId recorded request decision, s.row = some column → s.key →
      (approvalId, recorded) ∈ decisions s.events →
      (s.without task).AnswersDecided env request approvalId recorded decision := by
  have hlog : LogMeets DecidedOnce s :=
    transactions_invariant (fun s hlog => hlog.upkeeping_decided)
      (fun _ _ => ⟨⟨_, rfl⟩, nodup_nil, fun _ _ hmem => (nomatch hmem),
        fun _ _ _ _ h => (nomatch h)⟩)
      (fun _ hlog => hlog.transacting_decided) hreach s hmem
  refine ⟨nodup_iff_count_le_one.mp hlog.every.decided_once, fun commit hcommit => ?_, ?_⟩
  · obtain ⟨earlier, later, hsplit⟩ := append_of_mem hcommit
    exact (hlog.every earlier commit later hsplit).result
  · intro task column approvalId recorded request decision hrow hkey hdecided
    have hwithout : LogMeets DecidedOnce (s.without task) := hlog.congr rfl rfl rfl rfl rfl rfl
    exact hwithout.answersDecided env hrow hkey hdecided request decision

/-- The grant of a prompt, and what a repeated and a conflicting decision get then. -/
theorem granted_prompt_answers :
    ∃ app, Reaches (Application.step smallEnvironment) anyAction .initial app ∧
      ∃ s ∈ app.sessions, (11, ApprovalDecision.grant) ∈ decisions s.events ∧
        s.AnswersDecided smallEnvironment 103 11 .grant .grant ∧
        s.AnswersDecided smallEnvironment 104 11 .grant .deny := by
  obtain ⟨app, hreach, s, hmem, hrow, hkey, hdecided, htasks⟩ :=
    @exists_reaches_of_execute _ _
      (Application.step smallEnvironment) anyAction _ .initial
      (smallStart .fake [smallStep "a"] ++ [.resume 0 0 .proceed []])
      (fun app => ∃ s ∈ app.sessions, s.row = some .running ∧ s.key = true ∧
        (11, ApprovalDecision.grant) ∈ decisions s.events ∧ s.tasks.length = 1)
      (by decide +kernel)
  have hanswers := fun request decision => (approvals_decided_once _ hreach hmem).2.2
    1 .running 11 .grant request decision hrow hkey hdecided
  have hwithout : s.without 1 = s := by
    rw [Session.without, eraseIdx_of_length_le (by omega)]
  rw [hwithout] at hanswers
  exact ⟨app, hreach, s, hmem, hdecided, hanswers 103 .grant, hanswers 104 .deny⟩

/-- The small environment with a provider that has no adapter. -/
def adapterlessEnvironment : Environment :=
  { smallEnvironment with adapter := fun _ => false }

/-- A denial under the request id of the grant is rejected as an invalid request, not as an
invalid transition.  And when the store fails between a grant and its activation, the repeated
request activates the attempt, and its failure is a new event. -/
theorem repeated_decisions_answered_otherwise :
    (∃ app, Reaches (Application.step smallEnvironment) anyAction .initial app ∧
      ∃ s ∈ app.sessions, (11, ApprovalDecision.grant) ∈ decisions s.events ∧
        ((dispatchSession smallEnvironment 102
          (.approvalResolve 11 .deny)).run [] s).1
            = .error (.invalidRequest "storage rejected the command")) ∧
    ∃ app, Reaches (Application.step adapterlessEnvironment) anyAction .initial app ∧
      ∃ s ∈ app.sessions, (11, ApprovalDecision.grant) ∈ decisions s.events ∧
        ((dispatchSession adapterlessEnvironment 102
          (.approvalResolve 11 .grant)).run [] s).2.events ≠ s.events := by
  constructor
  · exact exists_reaches_of_execute
      (smallStart .fake [smallStep "a"] ++ [.resume 0 0 .proceed []]) (by decide +kernel)
  · exact exists_reaches_of_execute
      (smallStart .api [smallStep "a"] ++ [.resume 0 0 .proceed [false, false, false, true]])
      (by decide +kernel)

end Workbench.Daemon
