import Workbench.Daemon.Drawn

/-!
# Daemon: the log of committed transactions

A property of transactions says of each commit what holds of it after all that was
committed before.  `LogMeets` says it of all commits of a session, and `Committing` of
those of a list of effects, each in the session state in which it is committed.
-/

namespace Workbench.Daemon

open Workbench.Core Config Storage Library List

/-- All events that a list of transactions appended. -/
def committed (commits : List Commit) : List Event := commits.flatMap Commit.batch

/-- Every transaction satisfies the property after those before it. -/
def EveryCommit (P : List Event → Commit → Prop) (commits : List Commit) : Prop :=
  ∀ earlier commit later, commits = earlier ++ commit :: later → P (committed earlier) commit

/-- The log is what a session with a row has stored: events, the column, command outcomes. -/
structure Logged (s : Session) (column : SessionState) : Prop where
  events : s.events = committed s.commits
  last : s.commits.getLast?.map Commit.column = some column
  commands : s.commands = s.commits.filterMap Commit.stored
  unburied : s.tombstone = none

def Command.isExport : Command → Bool
  | .exportBundle _ _ => true
  | _ => false

/-- The transaction of an effect has the property; a journal of an export holds an export. -/
def Effect.Meets (P : List Event → Commit → Prop) (s : Session) : Effect → Prop
  | .commit batch stored =>
    ∀ column, s.row = some column →
      P s.events ⟨batch, stored, s.confirmed, columnAfter column batch⟩
  | .requestDeletion journal =>
    s.row.isSome ∧ P s.events ⟨[Session.deletionEvent journal], none, s.confirmed, .deleting⟩
  | .insertSession =>
    (s.commits = [] ∧ s.events = [] ∧ s.commands = [] ∧ s.tombstone = none) ∧
      P [] ⟨[s.creationEvent], none, s.confirmed, .ready⟩
  | .journalExport journal => journal.command.isExport
  | _ => True

/-- Every transaction of the effects satisfies the property when it is made. -/
def Committing (P : List Event → Commit → Prop) (s : Session) : List Effect → Prop
  | [] => True
  | effect :: rest => effect.Meets P s ∧ Committing P (s.apply effect) rest

/-- The log of a session depends on four of its fields. -/
theorem Logged.congr {s s' : Session} {column : SessionState} (h : Logged s column)
    (hevents : s'.events = s.events) (hcommands : s'.commands = s.commands)
    (hcommits : s'.commits = s.commits) (htombstone : s'.tombstone = s.tombstone) :
    Logged s' column := by
  obtain ⟨hlog, hlast, hstored, hunburied⟩ := h
  rw [← hcommits] at hlog hlast hstored
  exact ⟨hevents.trans hlog, hlast, hcommands.trans hstored, htombstone.trans hunburied⟩

section

variable {P : List Event → Commit → Prop} {s : Session} {effects : List Effect}

theorem committed_concat (commits : List Commit) (commit : Commit) :
    committed (commits ++ [commit]) = committed commits ++ commit.batch := by
  rw [committed, flatMap_append, flatMap_singleton]
  rfl

theorem EveryCommit.nil : EveryCommit P [] := by
  intro earlier commit later h
  simp at h

variable {commits : List Commit} {commit : Commit}

theorem EveryCommit.concat (h : EveryCommit P commits) (hcommit : P (committed commits) commit) :
    EveryCommit P (commits ++ [commit]) := by
  intro earlier found later hsplit
  rcases eq_nil_or_concat later with rfl | ⟨later, last, rfl⟩
  · obtain ⟨rfl, hlast⟩ := append_inj' hsplit rfl
    cases hlast
    exact hcommit
  · rw [concat_eq_append, ← cons_append, ← append_assoc] at hsplit
    obtain ⟨hinit, _⟩ := append_inj' hsplit rfl
    exact h earlier found later hinit

/-- The transaction that appended an event, with what was appended before. -/
theorem exists_commit_of_split {before after : List Event} {event : Event}
    (h : committed commits = before ++ event :: after) :
    ∃ earlier commit later first rest, commits = earlier ++ commit :: later ∧
      commit.batch = first ++ event :: rest ∧ before = committed earlier ++ first ∧
      after = rest ++ committed later := by
  induction commits generalizing before with
  | nil =>
    rw [committed, flatMap_nil] at h
    simp at h
  | cons commit commits ih =>
    rcases append_eq_append_iff.mp h with ⟨first, rfl, hrest⟩ | ⟨rest, hbatch, hcommits⟩
    · obtain ⟨earlier, found, later, inner, rest, rfl, hbatch, rfl, hafter⟩ := ih hrest
      exact ⟨commit :: earlier, found, later, inner, rest, rfl, hbatch,
        by simp [committed, append_assoc], hafter⟩
    cases rest with
    | nil =>
      rw [append_nil] at hbatch
      obtain ⟨earlier, found, later, inner, rest, rfl, hfound, hinner, hafter⟩ :=
        @ih [] hcommits.symm
      refine ⟨commit :: earlier, found, later, inner, rest, rfl, hfound, ?_, hafter⟩
      rw [committed, flatMap_cons, append_assoc, ← committed, ← hinner, hbatch, append_nil]
    | cons head rest =>
      obtain ⟨rfl, hafter⟩ := cons.inj hcommits
      exact ⟨[], commit, commits, before, rest, rfl, hbatch, rfl, hafter⟩

/-- A transaction that breaks the property. -/
theorem not_everyCommit {index : Nat} (hindex : commits[index]? = some commit)
    (hnot : ¬ P (committed (commits.take index)) commit) : ¬ EveryCommit P commits := by
  intro hevery
  obtain ⟨hlt, rfl⟩ := List.getElem?_eq_some_iff.mp hindex
  refine hnot (hevery (commits.take index) _ (commits.drop (index + 1)) ?_)
  rw [getElem_cons_drop, take_append_drop]

/-- The log is complete and has the property, and its journals of exports hold exports. -/
structure LogMeets (P : List Event → Commit → Prop) (s : Session) : Prop where
  logged : ∀ column, s.row = some column → Logged s column
  every : EveryCommit P s.commits
  journals : ∀ journal ∈ s.exports, journal.command.isExport

/-- The last transaction of a stored session has left its history and its column. -/
theorem LogMeets.last (h : LogMeets P s) {column : SessionState} (hrow : s.row = some column) :
    ∃ history commit, s.events = history ++ commit.batch ∧ commit.column = column ∧
      P history commit := by
  obtain ⟨hevents, hlast, _, _⟩ := h.logged column hrow
  obtain ⟨last, hfound, hcolumn⟩ := Option.map_eq_some_iff.mp hlast
  obtain ⟨earlier, hcommits⟩ := getLast?_eq_some_iff.mp hfound
  rw [hevents, hcommits, committed_concat]
  exact ⟨_, last, rfl, hcolumn, h.every earlier last [] hcommits⟩

/-- A session whose last transaction has just been made. -/
theorem LogMeets.concat {s' : Session} (h : LogMeets P s) (hlog : s.events = committed s.commits)
    (hcommands : s.commands = s.commits.filterMap Commit.stored) (hcommit : P s.events commit)
    (hrow : s'.row = some commit.column) (hevents : s'.events = s.events ++ commit.batch)
    (hcommands' : s'.commands = s.commands ++ commit.stored.toList)
    (hcommits : s'.commits = s.commits ++ [commit]) (hunburied : s'.tombstone = none)
    (hexports : s'.exports = s.exports) : LogMeets P s' where
  logged column hcolumn := by
    refine ⟨?_, ?_, ?_, hunburied⟩
    · rw [hevents, hcommits, committed_concat, ← hlog]
    · rw [hcommits, getLast?_concat]
      exact hrow.symm.trans hcolumn
    · rw [hcommands', hcommits, filterMap_append, ← hcommands]
      cases hstored : commit.stored <;> simp [hstored]
  every := by
    rw [hcommits]
    exact h.every.concat (hlog ▸ hcommit)
  journals := hexports ▸ h.journals

theorem LogMeets.apply {effect : Effect} (h : LogMeets P s) (heffect : effect.Meets P s) :
    LogMeets P (s.apply effect) := by
  cases effect with
  | commit batch stored =>
    cases hrow : s.row with
    | none =>
      refine ⟨fun column hsome => ?_, ?_, h.journals⟩
      · rw [Session.apply, hrow] at hsome
        cases hsome
      · show EveryCommit P (s.commits ++ s.row.elim [] _)
        rw [hrow, Option.elim_none, append_nil]
        exact h.every
    | some column =>
      have hlogged := h.logged column hrow
      refine h.concat hlogged.events hlogged.commands (heffect column hrow) ?_
        (Session.apply_commit_events hrow batch stored) ?_ ?_ hlogged.unburied rfl
      · show s.row.map _ = _
        rw [hrow, Option.map_some]
      · show s.commands ++ s.row.elim [] _ = _
        rw [hrow, Option.elim_some]
      · show s.commits ++ s.row.elim [] _ = _
        rw [hrow, Option.elim_some]
  | requestDeletion =>
    obtain ⟨hsome, hcommit⟩ := heffect
    obtain ⟨column, hrow⟩ := Option.isSome_iff_exists.mp hsome
    have hlogged := h.logged column hrow
    exact h.concat hlogged.events hlogged.commands hcommit rfl rfl (append_nil _).symm rfl
      hlogged.unburied rfl
  | insertSession =>
    obtain ⟨⟨hcommits, hevents, hcommands, hunburied⟩, hcommit⟩ := heffect
    have hlog : s.events = committed s.commits := by rw [hevents, hcommits]; rfl
    have hlog' : s.commands = s.commits.filterMap Commit.stored := by
      rw [hcommands, hcommits]
      rfl
    exact h.concat hlog hlog' (hevents ▸ hcommit) rfl rfl (append_nil _).symm rfl hunburied rfl
  | finishDeletion =>
    exact ⟨fun column hsome => (by cases hsome), h.every, h.journals⟩
  | journalExport =>
    refine ⟨fun column hrow => (h.logged column hrow).congr rfl rfl rfl rfl, h.every, ?_⟩
    exact forall_mem_append.mpr ⟨h.journals, forall_mem_singleton.mpr heffect⟩
  | stageExport =>
    refine ⟨fun column hrow => (h.logged column hrow).congr rfl rfl rfl rfl, h.every, ?_⟩
    intro found hmem
    obtain ⟨journal, hjournal, rfl⟩ := mem_map.mp hmem
    split <;> exact h.journals journal hjournal
  | closeExport =>
    refine ⟨fun column hrow => (h.logged column hrow).congr rfl rfl rfl rfl, h.every, ?_⟩
    exact fun found hmem => h.journals found (mem_of_mem_filter hmem)
  | _ =>
    exact ⟨fun column hrow => (h.logged column hrow).congr rfl rfl rfl rfl, h.every, h.journals⟩

theorem LogMeets.after (h : LogMeets P s) (heffects : Committing P s effects) :
    LogMeets P (s.after effects) := by
  induction effects generalizing s with
  | nil => exact h
  | cons effect rest ih => exact ih (h.apply heffects.1) heffects.2

/-- Effects without a transaction. -/
def Effect.isSilent : Effect → Bool
  | .commit _ _ | .requestDeletion _ | .insertSession | .journalExport _ => false
  | _ => true

theorem committing_of_silent (h : effects.all Effect.isSilent) : Committing P s effects := by
  induction effects generalizing s with
  | nil => trivial
  | cons effect rest ih =>
    rw [all_cons, Bool.and_eq_true] at h
    obtain ⟨hsilent, hrest⟩ := h
    exact ⟨by cases effect <;> trivial, ih hrest⟩

theorem Committing.append {first second : List Effect} (hfirst : Committing P s first)
    (hsecond : Committing P (s.after first) second) : Committing P s (first ++ second) := by
  induction first generalizing s with
  | nil => exact hsecond
  | cons effect rest ih => exact ⟨hfirst.1, ih hfirst.2 hsecond⟩

theorem Committing.take (h : Committing P s effects) (cut : Nat) :
    Committing P s (effects.take cut) := by
  induction effects generalizing s cut with
  | nil => rw [take_nil]; trivial
  | cons effect rest ih =>
    cases cut with
    | zero => trivial
    | succ cut => exact ⟨h.1, ih h.2 cut⟩

/-- Only the durable part of a session matters. -/
theorem LogMeets.congr {s' : Session} (h : LogMeets P s) (hrow : s'.row = s.row)
    (hevents : s'.events = s.events) (hcommands : s'.commands = s.commands)
    (hcommits : s'.commits = s.commits) (htombstone : s'.tombstone = s.tombstone)
    (hexports : s'.exports = s.exports) : LogMeets P s' :=
  ⟨fun column hsome =>
    (h.logged column (hrow ▸ hsome)).congr hevents hcommands hcommits htombstone,
   hcommits ▸ h.every, hexports ▸ h.journals⟩

theorem Deletion.committing (h : Deletion s effects)
    (hdelete : ∀ column journal, s.row = some column → deletableColumn column →
      P s.events ⟨[Session.deletionEvent journal], none, s.confirmed, .deleting⟩) :
    Committing P s effects := by
  cases h with
  | opened journal column cut hrow hcolumn =>
    have hopened : Committing P s [.requestDeletion journal, .destroyKey,
        .finishDeletion journal, .deactivate, .evict] :=
      ⟨⟨by rw [hrow]; rfl, hdelete column journal hrow hcolumn⟩, committing_of_silent rfl⟩
    exact hopened.take cut
  | continued => exact Committing.take (committing_of_silent rfl) _
  | repeated => exact committing_of_silent rfl

theorem Hydration.committing (h : Hydration effects) : Committing P s effects := by
  cases h <;> exact committing_of_silent rfl

theorem Reconciling.committing {done : Bool} (h : Reconciling s done effects) :
    Committing P s effects := by
  cases h <;> exact committing_of_silent rfl

end

/-! ## Creation -/

theorem created_logMeets {P : List Event → Commit → Prop} (hcreate : ∀ workflow request,
      P [] ⟨[⟨.sessionCreated workflow, some request, none⟩], none, [], .ready⟩)
    {s : Session} (h : Created s) : LogMeets P s := by
  obtain ⟨request, workflow, configuration, effects, heffects, rfl⟩ := h
  have hfresh : LogMeets P (.fresh request workflow configuration) :=
    ⟨fun _ hrow => (nomatch hrow), .nil,
    forall_mem_nil _⟩
  refine LogMeets.congr (hfresh.after ?_) rfl rfl rfl rfl rfl rfl
  cases heffects with
  | failed cut _ hundo =>
    refine (Committing.take (committing_of_silent rfl) cut).append ?_
    rcases hundo with rfl | rfl | rfl <;> exact committing_of_silent rfl
  | created _ hrest =>
    refine Committing.append ⟨trivial, trivial, trivial, ⟨⟨rfl, rfl, rfl, rfl⟩, hcreate _ _⟩,
      trivial⟩ ?_
    rcases hrest with rfl | rfl <;> exact committing_of_silent rfl

end Workbench.Daemon
