import Workbench.Core.Orchestrator
import Workbench.Library.Exclusion
import Workbench.Library.Transition

/-!
# Openrouter: budget and spend ledger

The paid-inference ledger keeps one total per session in memory and writes it to the
`sessions` table.  `record_spend` adds under the ledger's lock and writes after the lock
has been released, so calls on one session can overlap: `SpendState` is the ledger, the
table and the calls in progress, and each step of a call is one action.  Totals are `u64`
in memory and `i64` in the table.  Lock poisoning is left out.
-/

namespace Workbench.Openrouter

open Library Workbench.Core List

/-! ## Errors -/

/-- Stable redacted `OpenRouter` failure kinds used by the adapter. -/
inductive OpenRouterErrorKind where
  | invalidConfig
  | credentialMissing
  | credentialEmpty
  | budgetExceeded
  | transport
  | responseTooLarge
  | malformedStream
  | unavailable
  | cancelled
  | outcomeUnknown
  | shuttingDown
  deriving DecidableEq

/-- Redacted `OpenRouter` adapter failure returned to the core port. -/
structure OpenRouterError where
  kind : OpenRouterErrorKind
  message : String
  deriving DecidableEq

def OpenRouterError.intoProviderFailure (error : OpenRouterError) (definite : Bool) :
    ProviderFailure where
  category :=
    match error.kind with
    | .budgetExceeded => .policyDenied
    | .credentialMissing | .credentialEmpty => .providerUnavailable
    | .outcomeUnknown => .outcomeUnknown
    | .invalidConfig => .invalidRequest
    | _ => .providerUnavailable
  userSafeMessage := error.message
  definite := definite

/-! ## Budget -/

/-- The largest `u64`. -/
def u64Max : Nat := 2 ^ 64 - 1

def saturatingAdd (a b : Nat) : Nat := min (a + b) u64Max

theorem le_saturatingAdd {a : Nat} (b : Nat) (h : a ≤ u64Max) : a ≤ saturatingAdd a b :=
  Nat.le_min.mpr ⟨Nat.le_add_right a b, h⟩

/-- Amounts added one after the other saturate as their sum does. -/
theorem saturatingAdd_min (a b : Nat) : saturatingAdd (min a u64Max) b = min (a + b) u64Max := by
  unfold saturatingAdd
  omega

/-- Configuration ceilings copied from resolved `policies.cost`. -/
structure CostPolicyConfig where
  maxSessionUsdMicros : Nat
  maxAttemptUsdMicros : Option Nat

/-- Pre-dispatch budget evaluation result. -/
inductive BudgetDecision where
  | allow (estimateUsdMicros : Nat)
  | denySession
  | denyAttempt

/-- The totals of `by_session`; a session without an entry has spent nothing. -/
abbrev Spends := Nat → Nat

def defaultAttemptEstimateUsdMicros : Nat := 10000

/-- Evaluates whether a paid attempt may start for one session. -/
def evaluateBudget (policy : CostPolicyConfig) (spends : Spends) (sessionId estimate : Nat) :
    BudgetDecision :=
  if policy.maxAttemptUsdMicros.any fun maxAttempt => estimate > maxAttempt then .denyAttempt
  else if saturatingAdd (spends sessionId) estimate > policy.maxSessionUsdMicros then .denySession
  else .allow estimate

/-- Converts a deny decision into a redacted pre-dispatch error. -/
def denyError : BudgetDecision → Except OpenRouterError Unit
  | .allow _ => .ok ()
  | .denySession => .error ⟨.budgetExceeded, "session paid-inference budget would be exceeded"⟩
  | .denyAttempt => .error ⟨.budgetExceeded, "attempt paid-inference budget would be exceeded"⟩

/-- Estimates attempt cost using the conservative default, capped by session. -/
def estimateAttemptUsdMicros (policy : CostPolicyConfig) : Nat :=
  min defaultAttemptEstimateUsdMicros policy.maxSessionUsdMicros

/-! ## Recording -/

/-- The largest amount the `spend_usd_micros` column holds. -/
def i64Max : Nat := 2 ^ 63 - 1

/-- The `spend_usd_micros` column, for the sessions that have a row. -/
abbrev SpendRows := Nat → Option { spend : Nat // spend ≤ i64Max }

/-- `store_session_spend_usd_micros` on a connection that may fail. -/
def storeSessionSpendUsdMicros (rows : SpendRows) (sessionId spend : Nat) (available : Bool) :
    Option SpendRows :=
  if hfits : spend ≤ i64Max then
    if available = true ∧ (rows sessionId).isSome = true then
      some fun other => if other = sessionId then some ⟨spend, hfits⟩ else rows other
    else none
  else none

/-- How far the daemon gets with the database of the ledger. -/
inductive LedgerAccess where
  | unopened
  | failing
  | works
  deriving DecidableEq

/-- `persist_spend`, which opens the database for every write. -/
def persistSpend (rows : SpendRows) (sessionId spend : Nat) (access : LedgerAccess) :
    Except OpenRouterError SpendRows :=
  if access = .unopened then .error ⟨.unavailable, "cost ledger storage unavailable"⟩
  else
    match storeSessionSpendUsdMicros rows sessionId spend (access == .works) with
    | some rows' => .ok rows'
    | none => .error ⟨.unavailable, "cost ledger persist failed"⟩

/-- `restore_from_durable`: the rows above zero become the entries of the ledger. -/
def restoreFromDurable (rows : SpendRows) : Spends := fun sessionId =>
  match rows sessionId with
  | some spend => if spend.val > 0 then spend else 0
  | none => 0

/-- Where a call of `record_spend` stands. -/
inductive SpendPoint where
  /-- Before the ledger's lock is taken. -/
  | adding
  /-- The new total is in memory and still has to be written. -/
  | persisting (total : Nat)
  | returned (result : Except OpenRouterError Nat)
  deriving DecidableEq

/-- One call of `record_spend`. -/
structure SpendCall where
  sessionId : Nat
  usdMicros : Nat
  point : SpendPoint

structure SpendState where
  bySession : Spends
  rows : SpendRows
  calls : List SpendCall

/-- The ledger as it is built over a table. -/
def withDurableStore (rows : SpendRows) : SpendState := ⟨restoreFromDurable rows, rows, []⟩

inductive SpendAction where
  | recordSpend (sessionId usdMicros : Nat)
  /-- The next step of a call; a write needs the database. -/
  | goOn (call : Nat) (access : LedgerAccess)

/-- The next step of one call of `record_spend`. -/
def SpendState.advance (s : SpendState) (index : Nat) (call : SpendCall) (access : LedgerAccess) :
    Option SpendState :=
  match call.point with
  | .adding =>
    if call.usdMicros = 0 then
      some { s with
        calls := s.calls.set index
          { call with point := .returned (.ok (s.bySession call.sessionId)) } }
    else
      let total := saturatingAdd (s.bySession call.sessionId) call.usdMicros
      some { s with
        bySession := fun other => if other = call.sessionId then total else s.bySession other
        calls := s.calls.set index { call with point := .persisting total } }
  | .persisting total =>
    match persistSpend s.rows call.sessionId total access with
    | .ok rows =>
      some { s with
        rows := rows
        calls := s.calls.set index { call with point := .returned (.ok total) } }
    | .error error =>
      some { s with
        calls := s.calls.set index { call with point := .returned (.error error) } }
  | .returned _ => none

def SpendState.step (s : SpendState) : SpendAction → Option SpendState
  | .recordSpend sessionId usdMicros =>
    some { s with calls := s.calls ++ [⟨sessionId, usdMicros, .adding⟩] }
  | .goOn index access => (s.calls[index]?).bind fun call => s.advance index call access

/-- The amount the table holds for a session. -/
def SpendState.persisted (s : SpendState) (sessionId : Nat) : Nat :=
  match s.rows sessionId with
  | some spend => spend
  | none => 0

/-- Restoring the ledger brings back the amounts of the table. -/
theorem restoreFromDurable_rows (s : SpendState) (sessionId : Nat) :
    restoreFromDurable s.rows sessionId = s.persisted sessionId := by
  unfold restoreFromDurable SpendState.persisted
  cases s.rows sessionId with
  | none => rfl
  | some spend =>
    show (if spend.val > 0 then spend.val else 0) = spend.val
    split <;> omega

/-! ## Overlapping calls -/

def SpendPoint.isPersisting : SpendPoint → Bool
  | .persisting _ => true
  | _ => false

def SpendPoint.isSuccess : SpendPoint → Bool
  | .returned (.ok _) => true
  | _ => false

/-- Nothing of the call is in memory only: it has not added yet, or has written. -/
def SpendPoint.isSettled : SpendPoint → Bool
  | .adding => true
  | point => point.isSuccess

namespace SpendState

/-- A call adds to a session only while no other call on it has a total to write. -/
def AddsInTurn (s : SpendState) : SpendAction → Prop
  | .recordSpend .. => True
  | .goOn index _ => ∀ call ∈ s.calls[index]?, call.point = .adding → call.usdMicros ≠ 0 →
      ∀ other ∈ s.calls, other.sessionId = call.sessionId → other.point.isPersisting = false

instance (s : SpendState) (action : SpendAction) : Decidable (s.AddsInTurn action) := by
  cases action <;> unfold AddsInTurn <;> infer_instance

/-- All calls on a session have returned a total. -/
def Succeeded (s : SpendState) (sessionId : Nat) : Prop :=
  ∀ call ∈ s.calls, call.sessionId = sessionId → call.point.isSuccess

instance (s : SpendState) (sessionId : Nat) : Decidable (s.Succeeded sessionId) := by
  unfold Succeeded
  infer_instance

variable (s : SpendState) (index : Nat) (call : SpendCall) in
/-- What a step of a call does. -/
inductive Advanced : SpendState → Prop where
  | nothing (hpoint : call.point = .adding) :
      Advanced { s with
        calls := s.calls.set index
          { call with point := .returned (.ok (s.bySession call.sessionId)) } }
  | added (hpoint : call.point = .adding) (hamount : call.usdMicros ≠ 0) (total : Nat)
      (htotal : total = saturatingAdd (s.bySession call.sessionId) call.usdMicros) :
      Advanced { s with
        bySession := fun other => if other = call.sessionId then total else s.bySession other
        calls := s.calls.set index { call with point := .persisting total } }
  | stored (total : Nat) (hpoint : call.point = .persisting total) (hfits : total ≤ i64Max) :
      Advanced { s with
        rows := fun other => if other = call.sessionId then some ⟨total, hfits⟩ else s.rows other
        calls := s.calls.set index { call with point := .returned (.ok total) } }
  | failed (total : Nat) (hpoint : call.point = .persisting total) (error : OpenRouterError) :
      Advanced { s with calls := s.calls.set index { call with point := .returned (.error error) } }

theorem persistSpend_eq_ok {rows rows' : SpendRows} {sessionId spend : Nat}
    {access : LedgerAccess} (h : persistSpend rows sessionId spend access = .ok rows') :
    ∃ hfits,
      rows' = fun other => if other = sessionId then some ⟨spend, hfits⟩ else rows other := by
  unfold persistSpend at h
  split at h
  · cases h
  split at h
  · next stored hstored =>
    cases h
    unfold storeSessionSpendUsdMicros at hstored
    split at hstored
    · next hfits =>
      split at hstored
      · exact ⟨hfits, (Option.some.inj hstored).symm⟩
      · cases hstored
    · cases hstored
  · cases h

variable {s s' : SpendState}

theorem advanced_of_advance {index : Nat} {call : SpendCall}
    {access : LedgerAccess} (h : s.advance index call access = some s') :
    Advanced s index call s' := by
  unfold advance at h
  split at h
  · next hpoint =>
    split at h
    · cases h
      exact .nothing hpoint
    · next hamount =>
      cases h
      exact .added hpoint hamount _ rfl
  · next total hpoint =>
    split at h
    · next rows hrows =>
      obtain ⟨hfits, rfl⟩ := persistSpend_eq_ok hrows
      cases h
      exact .stored total hpoint hfits
    · cases h
      exact .failed total hpoint _
  · cases h

/-- With calls adding in turn, the table lags by the one write to come and those that failed. -/
structure Behind (s : SpendState) : Prop where
  bounded : ∀ sessionId, s.bySession sessionId ≤ u64Max
  behind : ∀ sessionId, s.persisted sessionId ≤ s.bySession sessionId
  latest : ∀ (index : Nat) (call : SpendCall) (total : Nat), s.calls[index]? = some call →
    call.point = .persisting total → total = s.bySession call.sessionId
  alone : ∀ (first second : Nat) (call other : SpendCall), s.calls[first]? = some call →
    s.calls[second]? = some other → call.sessionId = other.sessionId →
    call.point.isPersisting → other.point.isPersisting → first = second
  caughtUp : ∀ sessionId,
    (∀ (index : Nat) (call : SpendCall), s.calls[index]? = some call →
      call.sessionId = sessionId → call.point.isSettled) →
    s.persisted sessionId = s.bySession sessionId

/-- A write replaces the amount of its session. -/
theorem persisted_stored (s : SpendState) (calls : List SpendCall) (written : Nat)
    {total : Nat} (hfits : total ≤ i64Max) (sessionId : Nat) :
    persisted { s with
      rows := fun other => if other = written then some ⟨total, hfits⟩ else s.rows other
      calls := calls } sessionId =
    if sessionId = written then total else s.persisted sessionId := by
  unfold persisted
  by_cases heq : sessionId = written
  · simp only [heq, if_true]
  · simp only [heq, if_false]

theorem behind_withDurableStore (rows : SpendRows) : Behind (withDurableStore rows) := by
  have hrestored : ∀ sessionId, (withDurableStore rows).persisted sessionId =
      (withDurableStore rows).bySession sessionId :=
    fun sessionId => (restoreFromDurable_rows (withDurableStore rows) sessionId).symm
  refine ⟨fun sessionId => ?_, fun sessionId => (hrestored sessionId).le, nofun, nofun,
    fun sessionId _ => hrestored sessionId⟩
  rw [← hrestored]
  unfold persisted u64Max
  split
  · next spend _ =>
    have hfits := spend.property
    unfold i64Max at hfits
    omega
  · exact Nat.zero_le _

section

variable {s s' : SpendState} {index : Nat} {call : SpendCall} {point : SpendPoint}

/-- A call that is not waiting to write may be replaced by another one that is not. -/
theorem Behind.alone_set (h : Behind s) (hpoint : point.isPersisting = false) (first second : Nat)
    (one other : SpendCall)
    (hfirst : (s.calls.set index { call with point := point })[first]? = some one)
    (hsecond : (s.calls.set index { call with point := point })[second]? = some other)
    (hsession : one.sessionId = other.sessionId) (hone : one.point.isPersisting)
    (hother : other.point.isPersisting) : first = second := by
  obtain ⟨-, rfl⟩ | ⟨-, hfirst⟩ := getElem?_set_cases hfirst
  · rw [hpoint] at hone
    cases hone
  · obtain ⟨-, rfl⟩ | ⟨-, hsecond⟩ := getElem?_set_cases hsecond
    · rw [hpoint] at hother
      cases hother
    · exact h.alone first second one other hfirst hsecond hsession hone hother

theorem Behind.latest_set (h : Behind s) (hpoint : point.isPersisting = false) (place : Nat)
    (one : SpendCall) (total : Nat)
    (hplace : (s.calls.set index { call with point := point })[place]? = some one)
    (hone : one.point = .persisting total) : total = s.bySession one.sessionId := by
  obtain ⟨-, rfl⟩ | ⟨-, hplace⟩ := getElem?_set_cases hplace
  · change point = .persisting total at hone
    rw [hone] at hpoint
    cases hpoint
  · exact h.latest place one total hplace hone

/-- Whoever was settled before a call on another session went on still is. -/
theorem settled_of_set {sessionId : Nat} (hcall : s.calls[index]? = some call)
    (hsettled : call.sessionId = sessionId → call.point.isSettled)
    (h : ∀ (place : Nat) (one : SpendCall),
      (s.calls.set index { call with point := point })[place]? = some one →
      one.sessionId = sessionId → one.point.isSettled) (place : Nat) (one : SpendCall)
    (hplace : s.calls[place]? = some one) (hone : one.sessionId = sessionId) :
    one.point.isSettled := by
  by_cases heq : place = index
  · subst heq
    obtain rfl := Option.some.inj (hplace.symm.trans hcall)
    exact hsettled hone
  · exact h place one (by rw [getElem?_set_ne (Ne.symm heq)]; exact hplace) hone

theorem Behind.advanced (h : Behind s) (hcall : s.calls[index]? = some call)
    (hturn : call.point = .adding → call.usdMicros ≠ 0 → ∀ other ∈ s.calls,
      other.sessionId = call.sessionId → other.point.isPersisting = false)
    (hstep : Advanced s index call s') : Behind s' := by
  have hself : ∀ point : SpendPoint,
      (s.calls.set index { call with point := point })[index]? = some
        { call with point := point } :=
    fun point => getElem?_set_self (List.getElem?_eq_some_iff.mp hcall).1
  cases hstep with
  | nothing hpoint =>
    refine ⟨h.bounded, h.behind, h.latest_set rfl, h.alone_set rfl, fun sessionId hall => ?_⟩
    exact h.caughtUp sessionId (settled_of_set hcall (fun _ => by rw [hpoint]; rfl) hall)
  | added hpoint hamount total htotal =>
    have hnone := hturn hpoint hamount
    refine ⟨fun sessionId => ?_, fun sessionId => ?_, ?_, ?_, fun sessionId hall => ?_⟩
    · show (if sessionId = call.sessionId then total else s.bySession sessionId) ≤ u64Max
      split
      · rw [htotal]
        exact Nat.min_le_right _ _
      · exact h.bounded sessionId
    · show s.persisted sessionId ≤
        if sessionId = call.sessionId then total else s.bySession sessionId
      split
      · next heq =>
        rw [htotal, heq]
        exact (h.behind _).trans (le_saturatingAdd _ (h.bounded _))
      · exact h.behind sessionId
    · intro place one written hplace hone
      show written = if one.sessionId = call.sessionId then total else s.bySession one.sessionId
      obtain ⟨-, rfl⟩ | ⟨-, hplace⟩ := getElem?_set_cases hplace
      · rw [if_pos rfl]
        exact (SpendPoint.persisting.inj hone).symm
      rw [if_neg]
      · exact h.latest place one written hplace hone
      · intro hsession
        have hidle := hnone one (mem_of_getElem? hplace) hsession
        rw [hone] at hidle
        cases hidle
    · intro first second one other hfirst hsecond hsession hone hother
      obtain ⟨hatFirst, rfl⟩ | ⟨-, hfirst⟩ := getElem?_set_cases hfirst
      · obtain ⟨hatSecond, -⟩ | ⟨-, hsecond⟩ := getElem?_set_cases hsecond
        · rw [hatFirst, hatSecond]
        · rw [hnone other (mem_of_getElem? hsecond) hsession.symm] at hother
          cases hother
      · obtain ⟨-, rfl⟩ | ⟨-, hsecond⟩ := getElem?_set_cases hsecond
        · rw [hnone one (mem_of_getElem? hfirst) hsession] at hone
          cases hone
        · exact h.alone first second one other hfirst hsecond hsession hone hother
    · show s.persisted sessionId =
        if sessionId = call.sessionId then total else s.bySession sessionId
      rw [if_neg]
      · refine h.caughtUp sessionId (settled_of_set hcall (fun _ => by rw [hpoint]; rfl) hall)
      · intro heq
        have hsettled := hall index _ (hself (.persisting total)) heq.symm
        cases hsettled
  | stored total hpoint =>
    have hlatest := h.latest index call total hcall hpoint
    refine ⟨h.bounded, fun sessionId => ?_, h.latest_set rfl, h.alone_set rfl,
      fun sessionId hall => ?_⟩
    · rw [persisted_stored]
      split
      · next heq =>
        rw [heq]
        exact hlatest.le
      · exact h.behind sessionId
    · rw [persisted_stored]
      split
      · next heq =>
        rw [heq]
        exact hlatest
      · next hne =>
        exact h.caughtUp sessionId (settled_of_set hcall (fun heq => absurd heq.symm hne) hall)
  | failed _ _ error =>
    refine ⟨h.bounded, h.behind, h.latest_set rfl, h.alone_set rfl, fun sessionId hall => ?_⟩
    refine h.caughtUp sessionId (settled_of_set hcall (fun heq => ?_) hall)
    have hsettled := hall index _ (hself (.returned (.error error))) heq
    cases hsettled

end

theorem Behind.begun {s : SpendState} (h : Behind s) (sessionId usdMicros : Nat) :
    Behind { s with calls := s.calls ++ [⟨sessionId, usdMicros, .adding⟩] } := by
  refine ⟨h.bounded, h.behind, ?_, ?_, fun other hall => h.caughtUp other ?_⟩
  · intro place one total hplace hone
    obtain ⟨-, rfl⟩ | hplace := getElem?_concat_cases hplace
    · cases hone
    · exact h.latest place one total hplace hone
  · intro first second one other hfirst hsecond hsession hone hother
    obtain ⟨-, rfl⟩ | hfirst := getElem?_concat_cases hfirst
    · cases hone
    · obtain ⟨-, rfl⟩ | hsecond := getElem?_concat_cases hsecond
      · cases hother
      · exact h.alone first second one other hfirst hsecond hsession hone hother
  · intro place one hplace
    have hlt := (List.getElem?_eq_some_iff.mp hplace).1
    exact hall place one (by rw [getElem?_append_left hlt]; exact hplace)

variable {action : SpendAction}

/-- A step either begins a call or takes one further. -/
theorem step_cases (hstep : s.step action = some s') :
    (∃ sessionId usdMicros, s' = { s with calls := s.calls ++ [⟨sessionId, usdMicros, .adding⟩] }) ∨
    ∃ index access call, action = .goOn index access ∧ s.calls[index]? = some call ∧
      Advanced s index call s' := by
  cases action with
  | recordSpend sessionId usdMicros =>
      exact .inl ⟨sessionId, usdMicros, (Option.some.inj hstep).symm⟩
  | goOn index access =>
    obtain ⟨call, hcall, hadvance⟩ := Option.bind_eq_some_iff.mp hstep
    exact .inr ⟨index, access, call, rfl, hcall, advanced_of_advance hadvance⟩

theorem Behind.step (h : Behind s) (hallowed : s.AddsInTurn action)
    (hstep : s.step action = some s') : Behind s' := by
  obtain ⟨sessionId, usdMicros, rfl⟩ | ⟨index, access, call, rfl, hcall, hadvanced⟩ :=
    step_cases hstep
  · exact h.begun sessionId usdMicros
  · exact h.advanced hcall (hallowed call hcall) hadvanced

/-- The table only gets the total that stands in memory, which no amount in it exceeds. -/
theorem Behind.persisted_le (h : Behind s) (hstep : s.step action = some s')
    (sessionId : Nat) : s.persisted sessionId ≤ s'.persisted sessionId := by
  obtain ⟨_, _, rfl⟩ | ⟨index, access, call, -, hcall, hadvanced⟩ := step_cases hstep
  · exact Nat.le_refl _
  cases hadvanced with
  | nothing | added | failed => exact Nat.le_refl _
  | stored total hpoint =>
    rw [persisted_stored]
    split
    · next heq =>
      rw [heq, h.latest index call total hcall hpoint]
      exact h.behind _
    · exact Nat.le_refl _

/-- As long as the calls on a session add in turn, the table loses no amount, and when all calls on
a session have succeeded it holds the total in memory, which is also what a restart restores. -/
theorem durable_spend_follows_memory (rows : SpendRows) (s : SpendState)
    (hreach : Reaches step AddsInTurn (withDurableStore rows) s) :
    (∀ sessionId, s.Succeeded sessionId → s.persisted sessionId = s.bySession sessionId ∧
      (withDurableStore s.rows).bySession sessionId = s.bySession sessionId) ∧
    ∀ action s', s.step action = some s' → ∀ sessionId,
      s.persisted sessionId ≤ s'.persisted sessionId := by
  have hbehind : Behind s := hreach.invariant (behind_withDurableStore rows)
    fun _ _ _ hs hallowed hstep => hs.step hallowed hstep
  refine ⟨fun sessionId hall => ?_, fun action s' hstep => hbehind.persisted_le hstep⟩
  have hcaught : s.persisted sessionId = s.bySession sessionId := by
    refine hbehind.caughtUp sessionId fun index call hcall hsession => ?_
    have hsuccess := hall call (mem_of_getElem? hcall) hsession
    revert hsuccess
    cases call.point with
    | adding | persisting => exact nofun
    | returned => exact id
  exact ⟨hcaught, (restoreFromDurable_rows s sessionId).trans hcaught⟩

/-- A table with one session that has spent nothing. -/
def oneSession : SpendRows := fun sessionId =>
  if sessionId = 1 then some ⟨0, Nat.zero_le _⟩ else none

/-- Two calls, the second of which adds when the first has returned. -/
theorem spends_in_turn :
    ∃ s, Reaches step AddsInTurn (withDurableStore oneSession) s ∧ s.Succeeded 1 ∧
      s.calls.length = 2 ∧ s.bySession 1 = 30 ∧ s.persisted 1 = s.bySession 1 := by
  obtain ⟨s, hreach, hall, hcalls, htotal⟩ :=
    @exists_reaches_of_execute _ _ step AddsInTurn _ (withDurableStore oneSession)
      [.recordSpend 1 10, .recordSpend 1 20, .goOn 0 .works, .goOn 0 .works, .goOn 1 .works,
        .goOn 1 .works]
      (fun s => s.Succeeded 1 ∧ s.calls.length = 2 ∧ s.bySession 1 = 30) (by decide +kernel)
  exact ⟨s, hreach, hall, hcalls, htotal,
    ((durable_spend_follows_memory oneSession s hreach).1 1 hall).1⟩

/-- Two calls add 10 and 20, and the write of the first one lands last: both succeed, the
table goes from 30 back to 10, and a restart forgets the 20. -/
theorem late_write_loses_spend :
    ∃ s s', Reaches step anyAction (withDurableStore oneSession) s ∧
      s.step (.goOn 0 .works) = some s' ∧ s'.Succeeded 1 ∧ s'.bySession 1 = 30 ∧
      s.persisted 1 = 30 ∧ s'.persisted 1 = 10 ∧ (withDurableStore s'.rows).bySession 1 = 10 := by
  obtain ⟨s, hreach, s', hstep, hlost⟩ :=
    @exists_reaches_of_execute _ _ step anyAction _ (withDurableStore oneSession)
      [.recordSpend 1 10, .recordSpend 1 20, .goOn 0 .works, .goOn 1 .works, .goOn 1 .works]
      (fun s => ∃ s' ∈ s.step (.goOn 0 .works), s'.Succeeded 1 ∧ s'.bySession 1 = 30 ∧
        s.persisted 1 = 30 ∧ s'.persisted 1 = 10 ∧ (withDurableStore s'.rows).bySession 1 = 10)
      (by decide +kernel)
  exact ⟨s, s', hreach, hstep, hlost⟩

end SpendState

end Workbench.Openrouter
